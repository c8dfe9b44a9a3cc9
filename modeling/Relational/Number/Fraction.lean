import Relational.Number.Binary

/-!
# Fractions

A fraction is written as a numerator and a denominator with a slash between them, or as a decimal
numeral. It is kept in lowest terms.
-/

namespace Relational.Number

/-- Why a text is no fraction. -/
inductive FractionFault where
  | malformed
  | zeroDenominator
  deriving DecidableEq, Repr

/-- A quotient in lowest terms. -/
def lowestTerms (num : Int) (den : Nat) : Int × Nat :=
  let g := Nat.gcd num.natAbs den
  (num / g, den / g)

/-- A quotient times a power of ten, in lowest terms. -/
def scaledFraction (num : Int) : Int → Int × Nat
  | .ofNat k => (num * (Nat.pow 10 k : Nat), 1)
  | .negSucc k => lowestTerms num (Nat.pow 10 (k + 1))

/-- Read an unsigned fraction: digits, a slash and digits, or a decimal numeral. -/
def readMagnitude (negative : Bool) (cs : List Char) : Option (Except FractionFault (Int × Nat)) :=
  match cs.span (· ≠ '/') with
  | (num, []) => do
    let (n, e) ← readScientific num
    return .ok (scaledFraction (withSign negative n) e)
  | (num, _ :: den) => do
    let n ← Text.readMagnitude num
    let d ← Text.readMagnitude den
    return if d = 0 then .error .zeroDenominator
      else .ok (lowestTerms (withSign negative n.toNat) d.toNat)

/-- Read a fraction. Blanks around it are ignored. -/
def readFraction (s : String) : Except FractionFault (Int × Nat) :=
  let (negative, cs) := splitSign (Text.trim s.toList)
  ((dropUnderscores ' ' cs).bind (readMagnitude negative)).getD (.error .malformed)

end Relational.Number

import Relational.Number.Decimal

/-!
# Exact numerical values

Numbers of all kinds are compared by their exact value, a quotient of integers times a power of ten,
or an infinity; what is not a number differs from everything, itself included. Powers are not
multiplied out unless the other side of a comparison is about as large. Equal values have equal
residues.
-/

namespace Relational.Number

/-- The exact value of a number: `num / den * 10 ^ power`, an infinity, or not a number. -/
inductive Exact where
  | nan
  | infinite (negative : Bool)
  | finite (num : Int) (den : Nat) (power : Int)
  deriving DecidableEq, Repr

/-- The exact value of a quotient. -/
def Exact.quotient (num : Int) (den : Nat) : Exact := .finite num den 0

/-- The double nearest to a quotient; none where it lies beyond all doubles. -/
def Binary.ofFraction? (num : Int) (den : Nat) : Option Binary :=
  match Binary.ofQuotient double (num < 0) num.natAbs den with
  | .infinite _ => none
  | b => some b

/-- The exact value of a binary number. -/
def Binary.exact : Binary → Exact
  | .nan => .nan
  | .infinite negative => .infinite negative
  | .finite negative m (.ofNat k) => .quotient (withSign negative (m * Nat.pow 2 k)) 1
  | .finite negative m (.negSucc k) => .quotient (withSign negative m) (Nat.pow 2 (k + 1))

/-- The exact value of a decimal. -/
def Decimal.exact : Decimal → Exact
  | .nan .. => .nan
  | .infinite negative => .infinite negative
  | .finite negative n e => .finite (withSign negative n) 1 e

/-- Whether `a * 10 ^ k = b`. A power of more digits than `b` has bits is too large. -/
def equalScaled (a : Int) (k : Nat) (b : Int) : Bool :=
  if a == 0 || b == 0 then a == b
  else if b.natAbs.log2 < k then false
  else a * (Nat.pow 10 k : Nat) == b

/-- Whether `a * 10 ^ k < b`, where the power is multiplied out only if it may matter. -/
def lessScaled (a : Int) (k : Nat) (b : Int) : Bool :=
  if a == 0 then 0 < b
  else if b.natAbs.log2 < k then a < 0
  else a * (Nat.pow 10 k : Nat) < b

namespace Exact

/-- Numerical equality. -/
def same : Exact → Exact → Bool
  | .infinite a, .infinite b => a == b
  | .finite a b p, .finite c d q =>
    if q ≤ p then equalScaled (a * d) (p - q).toNat (c * b)
    else equalScaled (c * b) (q - p).toNat (a * d)
  | _, _ => false

/-- Numerical order. -/
def less : Exact → Exact → Bool
  | .infinite a, .infinite b => a && !b
  | .infinite a, .finite .. => a
  | .finite .., .infinite b => !b
  | .finite a b p, .finite c d q =>
    if q ≤ p then lessScaled (a * d) (p - q).toNat (c * b)
    else lessScaled (-(c * b)) (q - p).toNat (-(a * d))
  | _, _ => false

/-- Whether the value is zero. -/
def isZero : Exact → Bool
  | .finite n _ _ => n == 0
  | _ => false

/-- The integer part, dropping the fraction towards zero. -/
def truncate? : Exact → Option Int
  | .finite n d (.ofNat k) => some ((n * (Nat.pow 10 k : Nat)).tdiv d)
  | .finite n d (.negSucc k) =>
    if n.natAbs.log2 < k + 1 then some 0 else some (n.tdiv (d * Nat.pow 10 (k + 1) : Nat))
  | _ => none

/-- The prime modulus of residues, `2 ^ 61 - 1`. -/
def modulus : Nat := 2305843009213693951

/-- A power reduced by the modulus, by squaring through the `fuel` low bits of the exponent. -/
def powMod : Nat → Nat → Nat → Nat
  | 0, _, _ => 1
  | fuel + 1, base, exponent =>
    let rest := powMod fuel (base * base % modulus) (exponent / 2)
    if exponent % 2 = 1 then base * rest % modulus else rest

/-- The inverse of a number that the modulus does not divide. -/
def inverseMod (n : Nat) : Nat := powMod 61 (n % modulus) (modulus - 2)

/-- A power of ten reduced by the modulus; exponents count modulo the order of the group. -/
def tenMod : Int → Nat
  | .ofNat k => powMod 61 10 (k % (modulus - 1))
  | .negSucc k => powMod 61 (inverseMod 10) ((k + 1) % (modulus - 1))

/-- The residue -1 is reserved; -2 stands for it. -/
def reserve (r : Int) : Int := if r = -1 then -2 else r

/-- The residue of a value modulo the prime: numerator over denominator, with the sign of the
numerator. Infinities and quotients whose denominator vanishes have residues of their own. -/
def residue? : Exact → Option Int
  | .nan => none
  | .infinite negative => some (withSign negative 314159)
  | .finite n d p =>
    let magnitude :=
      if d % modulus = 0 then 314159
      else n.natAbs % modulus * inverseMod d % modulus * tenMod p % modulus
    some (reserve (withSign (n < 0) magnitude))

end Exact
end Relational.Number

import Relational.Number.Shortest

/-!
# Rounded decimal text

A binary number is written with a fixed number of decimals, positionally or after a leading digit.
The exact value is rounded to the nearest decimal, ties to the even digit. Shortest digits that go
on too long are cut in the same way.
-/

namespace Relational.Number

/-- The absolute value of a finite number as a quotient. -/
def Binary.ratio (m : Nat) : Int → Nat × Nat
  | .ofNat k => (m * Nat.pow 2 k, 1)
  | .negSucc k => (m, Nat.pow 2 (k + 1))

/-- A quotient with the given number of decimals. -/
def fixedDecimals (places num den : Nat) : String :=
  let n := roundQuotient (num * Nat.pow 10 places) den
  Text.decimal (n / Nat.pow 10 places) ++
    (if places = 0 then "" else "." ++ Text.paddedDecimal places (n % Nat.pow 10 places))

/-- The digits of a positive quotient, one before the point and the given number after it, and the
exponent of the first one. -/
def leadingDigits (places num den : Nat) : Nat × Int :=
  let top := magnitude num den
  let (c, d) := powerRatio 10 (top - places)
  let n := roundQuotient (num * d) (den * c)
  if n = Nat.pow 10 (places + 1) then (Nat.pow 10 places, top + 1) else (n, top)

/-- An exponent of at least two digits after its sign. -/
def exponentText (exponent : Int) : String :=
  (if exponent < 0 then "e-" else "e+") ++ Text.paddedDecimal 2 exponent.natAbs

/-- Digits of which the first stands before the point, and their exponent. -/
def pointAfterFirst (digits : List Char) (exponent : Int) : String :=
  String.ofList (digits.take 1) ++ "." ++ String.ofList (digits.drop 1) ++ exponentText exponent

/-- The minus sign, or what stands in its place. -/
def signText (plus : String) (negative : Bool) : String := if negative then "-" else plus

/-- A number with the given number of decimals; `plus` stands where a minus sign would. -/
def Binary.fixed (places : Nat) (plus : String) : Binary → String
  | .nan => plus ++ "nan"
  | .infinite negative => signText plus negative ++ "inf"
  | .finite negative m unit =>
    let (num, den) := Binary.ratio m unit
    signText plus negative ++ fixedDecimals places num den

/-- A number with one digit before the point, the given number of decimals, and an exponent. -/
def Binary.scientific (places : Nat) (plus : String) : Binary → String
  | .nan => plus ++ "nan"
  | .infinite negative => signText plus negative ++ "inf"
  | .finite negative m unit =>
    if m = 0 then signText plus negative ++ pointAfterFirst (List.replicate (places + 1) '0') 0
    else
      let (num, den) := Binary.ratio m unit
      let (n, e) := leadingDigits places num den
      signText plus negative ++ pointAfterFirst (Nat.toDigits 10 n) e

/-- The digits that read back to a positive double, and the exponent of the first one; at most the
given number of decimals after the first digit. -/
def shortestWithin (places m : Nat) (unit : Int) : List Char × Int :=
  let (n, e) := shortest double m unit
  let digits := Nat.toDigits 10 n
  if digits.length ≤ places + 1 then (digits, e + digits.length - 1)
  else
    let (num, den) := Binary.ratio m unit
    let (n, top) := leadingDigits places num den
    (Nat.toDigits 10 (dropZeros places n 0).1, top)

end Relational.Number

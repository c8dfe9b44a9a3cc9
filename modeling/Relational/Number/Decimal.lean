import Relational.Number.Shortest

/-!
# Decimal numbers

A decimal keeps its coefficient and exponent apart, so `1.50` and `1.5` are different texts of equal
numbers. It is written positionally unless its exponent is positive or its leading digit stands more
than six places after the point.
-/

namespace Relational.Number

/-- A signed coefficient times a power of ten, an infinity, or not a number with a payload. -/
inductive Decimal where
  | finite (negative : Bool) (coefficient : Nat) (exponent : Int)
  | infinite (negative : Bool)
  | nan (negative : Bool) (signaling : Bool) (payload : Option Nat)
  deriving DecidableEq, Repr

/-- Digits after the word that marks a value as not a number; zeros alone are no payload. -/
def readPayload : List Char → Option (Option Nat)
  | [] => some none
  | cs => (Text.readDigits 0 cs).map fun n => if n = 0 then none else some n

/-- The greatest exponent of a leading digit. -/
def greatestExponent : Int := 999999999999999999

/-- The least exponent of a last digit. -/
def leastExponent : Int := -1999999999999999997

/-- Whether a coefficient with an exponent is within the range of decimals. -/
def inDecimalRange (coefficient : Nat) (exponent : Int) : Bool :=
  leastExponent ≤ exponent && exponent + digitCount coefficient - 1 ≤ greatestExponent

/-- Read a decimal; underscores do not count. -/
def Decimal.read (s : String) : Option Decimal :=
  let (negative, cs) := splitSign ((Text.trim s.toList).filter (· != '_'))
  let word := smallLetters cs
  if word == "inf".toList || word == "infinity".toList then some (.infinite negative)
  else if word.take 3 == "nan".toList then
    (readPayload (cs.drop 3)).map (.nan negative false)
  else if word.take 4 == "snan".toList then
    (readPayload (cs.drop 4)).map (.nan negative true)
  else
    (readScientific cs).bind fun (n, e) =>
      if inDecimalRange n e then some (.finite negative n e) else none

/-- Write a coefficient with the point placed for its exponent. -/
def writeScaled (coefficient : Nat) (exponent : Int) : String :=
  let digits := Nat.toDigits 10 coefficient
  let left := exponent + digits.length
  let place := if exponent ≤ 0 ∧ -6 < left then left else 1
  let body :=
    if place ≤ 0 then "0." ++ zeros (-place).toNat ++ String.ofList digits
    else if (digits.length : Int) ≤ place then
      String.ofList digits ++ zeros (place.toNat - digits.length)
    else
      String.ofList (digits.take place.toNat) ++ "." ++ String.ofList (digits.drop place.toNat)
  if left = place then body
  else
    let power := left - place
    body ++ "E" ++ (if power < 0 then "-" else "+") ++ Text.decimal power.natAbs

/-- A decimal as text. -/
def Decimal.text : Decimal → String
  | .finite negative n e => (if negative then "-" else "") ++ writeScaled n e
  | .infinite negative => (if negative then "-" else "") ++ "Infinity"
  | .nan negative signaling payload =>
    (if negative then "-" else "") ++ (if signaling then "sNaN" else "NaN") ++
      (payload.map Text.decimal).getD ""

end Relational.Number

import Relational.Number.Binary

/-!
# Shortest decimal text

A binary number is written with the fewest decimal digits that read back to it; of two such decimals
the nearer is taken, and of two equally near ones the even one. The layout says where positional
writing ends.
-/

namespace Relational.Number

/-- The exponent of the leading decimal digit of a positive quotient. -/
def magnitude (num den : Nat) : Int :=
  if den ≤ num then (digitCount (num / den) : Int) - 1
  else -(digitCount ((den + num - 1) / num - 1) : Int)

/-- Numerator and denominator of a power of a base. -/
def powerRatio (base : Nat) : Int → Nat × Nat
  | .ofNat k => (Nat.pow base k, 1)
  | .negSucc k => (1, Nat.pow base (k + 1))

/-- The decimals with `n` digits beside `m * 2 ^ unit` that read back to it: the nearer one, if any.
The result is its coefficient and the power of ten that belongs to it. -/
def decimalNear? (format : BinaryFormat) (m : Nat) (unit : Int) (n : Nat) : Option (Nat × Int) :=
  let (a, b) := powerRatio 2 (unit - 2)
  let top : Int := magnitude (4 * m * a) b
  let power := top - n + 1
  let (c, d) := powerRatio 10 power
  let narrow := m = Nat.pow 2 (format.precision - 1) ∧ format.leastUnit < unit
  let low := (4 * m - if narrow then 1 else 2) * a * d
  let high := (4 * m + 2) * a * d
  let value := 4 * m * a * d
  let grid := b * c
  let reads (x : Nat) : Bool :=
    if m % 2 = 0 then low ≤ x * grid && x * grid ≤ high
    else low < x * grid && x * grid < high
  let below := value / grid
  let remainder := value % grid
  match reads below, reads (below + 1) with
  | true, true =>
    if 2 * remainder < grid then some (below, power)
    else if grid < 2 * remainder then some (below + 1, power)
    else some (below + below % 2, power)
  | true, false => some (below, power)
  | false, true => some (below + 1, power)
  | false, false => none

/-- Remove the trailing zeros of a coefficient, at most `fuel` of them. -/
def dropZeros : Nat → Nat → Int → Nat × Int
  | 0, n, e => (n, e)
  | fuel + 1, n, e => if n % 10 = 0 ∧ n ≠ 0 then dropZeros fuel (n / 10) (e + 1) else (n, e)

/-- Coefficient and power of ten of the shortest decimal that reads back to a positive value. -/
def shortest (format : BinaryFormat) (m : Nat) (unit : Int) : Nat × Int :=
  let (n, e) :=
    ((List.range 17).findSome? fun i => decimalNear? format m unit (i + 1)).getD (0, 0)
  dropZeros 20 n e

/-- Where decimals are written positionally, and whether a whole number keeps `.0`. -/
structure DecimalLayout where
  leastExponent : Int
  exponentLimit : Int
  pointZero : Bool

/-- Positional from `1e-4` up to `1e16`, with `.0` after whole numbers. -/
def DecimalLayout.plain : DecimalLayout := ⟨-4, 16, true⟩

/-- As `plain`, but whole numbers stay bare. -/
def DecimalLayout.bare : DecimalLayout := ⟨-4, 16, false⟩

/-- `count` zeros. -/
def zeros (count : Nat) : String := String.ofList (List.replicate count '0')

/-- Write a decimal given by its digits and the exponent of the leading digit. -/
def DecimalLayout.write (layout : DecimalLayout) (digits : List Char) (exponent : Int) : String :=
  if layout.leastExponent ≤ exponent ∧ exponent < layout.exponentLimit then
    if exponent < 0 then
      "0." ++ zeros (-exponent - 1).toNat ++ String.ofList digits
    else
      let whole := exponent.toNat + 1
      if digits.length ≤ whole then
        String.ofList digits ++ zeros (whole - digits.length) ++
          (if layout.pointZero then ".0" else "")
      else
        String.ofList (digits.take whole) ++ "." ++ String.ofList (digits.drop whole)
  else
    let fraction := digits.drop 1
    String.ofList (digits.take 1) ++
      (if fraction.isEmpty then "" else "." ++ String.ofList fraction) ++
      (if exponent < 0 then "e-" else "e+") ++ Text.paddedDecimal 2 exponent.natAbs

/-- A binary number of a format as text. -/
def Binary.text (format : BinaryFormat) (layout : DecimalLayout) : Binary → String
  | .nan => "nan"
  | .infinite negative => if negative then "-inf" else "inf"
  | .finite negative m unit =>
    let sign := if negative then "-" else ""
    if m = 0 then sign ++ layout.write ['0'] 0
    else
      let (n, e) := shortest format m unit
      let digits := Nat.toDigits 10 n
      sign ++ layout.write digits (e + digits.length - 1)

end Relational.Number

import Relational.Text.Blank

/-!
# Numerals

Integers are written in decimal with a leading minus sign where needed. They are read with an
optional sign, digits of any script, and single underscores between digits; blanks around the
numeral are ignored. A numeral of more than 4300 digits is refused.
-/

namespace Relational.Text

/-- The decimal digits of a natural number. -/
def decimal (n : Nat) : String := String.ofList (Nat.toDigits 10 n)

/-- The decimal digits of an integer, after a minus sign if it is negative. -/
def signedDecimal (n : Int) : String :=
  if n < 0 then "-" ++ decimal n.natAbs else decimal n.natAbs

/-- The lower-case hexadecimal digits of a natural number. -/
def hexadecimal (n : Nat) : String := String.ofList (Nat.toDigits 16 n)

/-- Digits in the given base, filled with zeros on the left up to a width. -/
def paddedDigits (base width n : Nat) : String :=
  let digits := Nat.toDigits base n
  String.ofList (List.replicate (width - digits.length) '0' ++ digits)

/-- A natural number in decimal, filled with zeros on the left. -/
def paddedDecimal (width n : Nat) : String := paddedDigits 10 width n

/-- The zeros of all scripts: each starts a run of ten digits. -/
def zeroDigits : List Nat := [
  0x30, 0x660, 0x6f0, 0x7c0, 0x966, 0x9e6, 0xa66, 0xae6, 0xb66, 0xbe6, 0xc66, 0xce6, 0xd66,
  0xde6, 0xe50, 0xed0, 0xf20, 0x1040, 0x1090, 0x17e0, 0x1810, 0x1946, 0x19d0, 0x1a80, 0x1a90,
  0x1b50, 0x1bb0, 0x1c40, 0x1c50, 0xa620, 0xa8d0, 0xa900, 0xa9d0, 0xa9f0, 0xaa50, 0xabf0,
  0xff10, 0x104a0, 0x10d30, 0x11066, 0x110f0, 0x11136, 0x111d0, 0x112f0, 0x11450, 0x114d0,
  0x11650, 0x116c0, 0x11730, 0x118e0, 0x11950, 0x11c50, 0x11d50, 0x11da0, 0x16a60, 0x16ac0,
  0x16b50, 0x1d7ce, 0x1d7d8, 0x1d7e2, 0x1d7ec, 0x1d7f6, 0x1e140, 0x1e2f0, 0x1e950, 0x1fbf0]

/-- The value of a decimal digit of any script. -/
def digitValue? (c : Char) : Option Nat :=
  (zeroDigits.find? fun z => z ≤ c.toNat && c.toNat < z + 10).map (c.toNat - ·)

/-- Read digits onto the number read so far; an underscore must stand between two digits. -/
def readDigits (value : Nat) : List Char → Option Nat
  | [] => some value
  | '_' :: c :: cs => (digitValue? c).bind fun d => readDigits (value * 10 + d) cs
  | c :: cs => (digitValue? c).bind fun d => readDigits (value * 10 + d) cs

/-- Read a numeral without sign; it starts with a digit. -/
def readNatural : List Char → Option Nat
  | [] => none
  | c :: cs => (digitValue? c).bind fun d => readDigits d cs

/-- The blanks that may surround a numeral: all but the information separators. -/
def isNumeralBlank (c : Char) : Bool := isBlank c && !(0x1c ≤ c.toNat && c.toNat ≤ 0x1f)

/-- Numerals with more digits than this are not read as integers. -/
def integerDigits : Nat := 4300

/-- Read a numeral without sign as an integer; leading zeros count as digits. -/
def readMagnitude (cs : List Char) : Option Int :=
  if (cs.filter (· != '_')).length > integerDigits then none
  else (readNatural cs).map fun n => (n : Int)

/-- Read an integer, ignoring blanks around it. -/
def readInteger (s : String) : Option Int :=
  match trimWhile isNumeralBlank s.toList with
  | '-' :: cs => (readMagnitude cs).map (- ·)
  | '+' :: cs => readMagnitude cs
  | cs => readMagnitude cs

end Relational.Text

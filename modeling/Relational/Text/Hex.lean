import Relational.Text.Numeral

/-!
# Bytes in hexadecimal

A byte is written as two hexadecimal digits.
-/

namespace Relational.Text

/-- The value of a hexadecimal digit. -/
def hexDigit? (c : Char) : Option Nat :=
  if '0' ≤ c && c ≤ '9' then some (c.toNat - '0'.toNat)
  else if 'a' ≤ c && c ≤ 'f' then some (c.toNat - 'a'.toNat + 10)
  else if 'A' ≤ c && c ≤ 'F' then some (c.toNat - 'A'.toNat + 10)
  else none

/-- Whether a character may stand between two bytes. -/
def separatesBytes (c : Char) : Bool := c == ' ' || ('\t' ≤ c && c ≤ '\r')

/-- Read pairs of hexadecimal digits, with blanks between them. -/
def readBytes : List Char → Option (List UInt8)
  | [] => some []
  | [a] => if separatesBytes a then some [] else none
  | a :: b :: rest =>
    if separatesBytes a then readBytes (b :: rest)
    else do
      let high ← hexDigit? a
      let low ← hexDigit? b
      return UInt8.ofNat (high * 16 + low) :: (← readBytes rest)

/-- Bytes as pairs of hexadecimal digits. -/
def writeBytes (bytes : List UInt8) : String :=
  String.join (bytes.map fun b => paddedDigits 16 2 b.toNat)

end Relational.Text

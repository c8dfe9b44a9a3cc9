import Relational.Text.Printable
import Relational.Text.Numeral

/-!
# Quoted text

Text shown inside messages stands in single quotes, or in double quotes when it contains single
quotes only. Backslashes and the quote are escaped; what is not printable is written by its code.
-/

namespace Relational.Text

/-- Single quotes, unless the text contains single but no double quotes. -/
def quoteMark (cs : List Char) : Char :=
  if cs.contains '\'' && !cs.contains '"' then '"' else '\''

/-- A code point as the shortest of the two-, four- and eight-digit escapes that hold it. -/
def escapeCode (n : Nat) : String :=
  if n < 0x100 then "\\x" ++ paddedDigits 16 2 n
  else if n < 0x10000 then "\\u" ++ paddedDigits 16 4 n
  else "\\U" ++ paddedDigits 16 8 n

/-- One character of quoted text. -/
def quotedChar (mark : Char) (c : Char) : String :=
  if c == mark || c == '\\' then String.ofList ['\\', c]
  else if c == '\n' then "\\n"
  else if c == '\r' then "\\r"
  else if c == '\t' then "\\t"
  else if isPrintable c then String.ofList [c]
  else escapeCode c.toNat

/-- A text in quotes. -/
def quoted (s : String) : String :=
  let mark := quoteMark s.toList
  String.ofList [mark] ++ String.join (s.toList.map (quotedChar mark)) ++ String.ofList [mark]

/-- One byte of a quoted byte string: ASCII as a character, anything else by its code. -/
def quotedByte (mark : Char) (b : UInt8) : String :=
  if b.toNat < 127 then quotedChar mark (Char.ofNat b.toNat) else escapeCode b.toNat

/-- A byte string in quotes, after the letter that marks it. -/
def quotedBytes (bytes : List UInt8) : String :=
  let mark := quoteMark (bytes.map fun b => Char.ofNat b.toNat)
  "b" ++ String.ofList [mark] ++ String.join (bytes.map (quotedByte mark)) ++ String.ofList [mark]

/-- A byte string that can grow, in quotes; single quotes are escaped in any case. -/
def quotedBuffer (bytes : List UInt8) : String :=
  let mark := quoteMark (bytes.map fun b => Char.ofNat b.toNat)
  let parts := bytes.map fun b => if b.toNat = 39 then "\\'" else quotedByte mark b
  "b" ++ String.ofList [mark] ++ String.join parts ++ String.ofList [mark]

end Relational.Text

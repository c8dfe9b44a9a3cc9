import Relational.Text.CodePoints

/-!
# Blanks

Blanks are the white space of every script together with the four information separators. Trimming
removes them from the ends of a text.
-/

namespace Relational.Text

/-- Where membership in the blanks changes. -/
def blankChanges : List Nat := [
  0x9, 0xe, 0x1c, 0x21, 0x85, 0x86, 0xa0, 0xa1, 0x1680, 0x1681, 0x2000, 0x200b, 0x2028, 0x202a,
  0x202f, 0x2030, 0x205f, 0x2060, 0x3000, 0x3001]

/-- White space and the information separators. -/
def isBlank (c : Char) : Bool := inSet blankChanges c

/-- Drop the longest suffix whose characters all satisfy `p`. -/
def dropSuffixWhile (p : Char → Bool) (cs : List Char) : List Char :=
  (cs.reverse.dropWhile p).reverse

/-- Drop the characters satisfying `p` from both ends. -/
def trimWhile (p : Char → Bool) (cs : List Char) : List Char :=
  dropSuffixWhile p (cs.dropWhile p)

/-- Drop the blanks at both ends. -/
def trim (cs : List Char) : List Char := trimWhile isBlank cs

/-- A text without the blanks at its ends. -/
def strip (s : String) : String := String.ofList (trim s.toList)

/-- A text without the blanks at its end. -/
def stripEnd (s : String) : String := String.ofList (dropSuffixWhile isBlank s.toList)

/-- Whether a text begins with another one. -/
def beginsWith (start s : String) : Bool := start.toList.isPrefixOf s.toList

/-- Fill a text with spaces up to the given number of characters. -/
def padEnd (width : Nat) (s : String) : String :=
  s ++ String.ofList (List.replicate (width - s.length) ' ')

/-- The texts of a list with a separator between neighbours. -/
def joinWith (separator : String) : List String → String
  | [] => ""
  | [s] => s
  | s :: t :: r => s ++ separator ++ joinWith separator (t :: r)

@[simp] theorem joinWith_nil (separator : String) : joinWith separator [] = "" := rfl

@[simp] theorem joinWith_singleton (separator s : String) : joinWith separator [s] = s := rfl

@[simp] theorem joinWith_cons_cons (separator s t : String) (r : List String) :
    joinWith separator (s :: t :: r) = s ++ separator ++ joinWith separator (t :: r) := rfl

end Relational.Text

import Relational.Text.Word

/-!
# Identifiers

Identifiers in statements stand between backticks; a backtick inside is written twice. The empty
identifier is written as nothing at all.
-/

namespace Relational

/-- The mark around identifiers. -/
def backtick : Char := '\x60'

/-- Write every occurrence of `mark` twice. -/
def doubled (mark : Char) : List Char → List Char
  | [] => []
  | c :: cs => if c = mark then c :: c :: doubled mark cs else c :: doubled mark cs

@[simp] theorem doubled_nil (mark : Char) : doubled mark [] = [] := rfl

theorem doubled_cons_self (mark : Char) (cs : List Char) :
    doubled mark (mark :: cs) = mark :: mark :: doubled mark cs := by simp [doubled]

theorem doubled_cons_of_ne {mark c : Char} (h : c ≠ mark) (cs : List Char) :
    doubled mark (c :: cs) = c :: doubled mark cs := by simp [doubled, h]

theorem doubled_append (mark : Char) (cs ds : List Char) :
    doubled mark (cs ++ ds) = doubled mark cs ++ doubled mark ds := by
  induction cs with
  | nil => rfl
  | cons c cs ih => by_cases h : c = mark <;> simp [doubled, h, ih]

/-- The characters of a quoted identifier. -/
def quoteChars : List Char → List Char
  | [] => []
  | c :: cs => backtick :: (doubled backtick (c :: cs) ++ [backtick])

/-- An identifier between backticks. -/
def quote (s : String) : String := String.ofList (quoteChars s.toList)

/-- Characters after which a name may continue: word characters and the dollar sign. -/
def isNamePart (c : Char) : Bool := Text.isWord c || c == '$'

/-- A plain name: an ASCII letter, underscore or dollar sign followed by word characters and dollar
signs. -/
def isPlainName : List Char → Bool
  | [] => false
  | c :: cs => (Text.isNameStart c || c == '$') && cs.all isNamePart

/-- Whether a text can serve as an attribute name as it stands. -/
def isIdentifier (s : String) : Bool := isPlainName s.toList

end Relational

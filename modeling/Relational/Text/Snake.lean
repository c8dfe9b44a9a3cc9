import Relational.Text.Case

/-!
# Names in snake case

A name in camel case becomes one in snake case: an underscore is put before every ASCII capital that
does not stand first, and all letters are made small.
-/

namespace Relational.Text

/-- Whether a character is an ASCII capital. -/
def isCapital (c : Char) : Bool := 'A' ≤ c && c ≤ 'Z'

/-- Put an underscore before every ASCII capital. -/
def separateCapitals : List Char → List Char
  | [] => []
  | c :: cs => if isCapital c then '_' :: c :: separateCapitals cs else c :: separateCapitals cs

/-- A name in snake case. -/
def snakeCase (s : String) : String :=
  match s.toList with
  | [] => ""
  | c :: cs => lower (String.ofList (c :: separateCapitals cs))

end Relational.Text

import Relational.Number.Rounded
import Relational.Text.Table
import Relational.Value.Scalar

/-!
# Written forms of arrays

The elements of an array of integers have a common type: signed or unsigned words if all of them
fit, floating-point numbers if some need a sign and others the whole unsigned word, and integers of
any size otherwise. They are filled up to a common width and written in lines of 75 characters; of a
long array only the ends are shown.
-/

namespace Relational

/-- The common type of the elements of an array. -/
inductive ElementType where
  | signed
  | unsigned
  | float
  | large
  deriving DecidableEq, Repr

/-- The type that holds all elements. An array without elements holds floating-point numbers. -/
def elementType (ns : List Int) : ElementType :=
  if ns.isEmpty then .float
  else if ns.all IntegerType.int64.holds then .signed
  else if !ns.all fun n => IntegerType.int64.holds n || IntegerType.uint64.holds n then .large
  else if ns.any IntegerType.int64.holds then .float
  else .unsigned

/-- The name of the type, where the elements do not tell it. -/
def ElementType.note (empty : Bool) : ElementType → Option String
  | .signed => none
  | .unsigned => some "uint64"
  | .float => if empty then some "float64" else none
  | .large => some "object"

/-- Texts filled with blanks on the left to the same width. -/
def aligned (texts : List String) : List String := texts.map (Text.padStart (Text.widest texts))

/-- The digits before and after the point and the exponent of a number in exponent form. -/
def exponentParts : Number.Binary → String × List Char × String
  | .finite negative m unit =>
    let (digits, e) := if m = 0 then (['0'], 0) else Number.shortestWithin 8 m unit
    (Number.signText "" negative ++ String.ofList (digits.take 1),
      if m = 0 then [] else digits.drop 1, Number.exponentText e)
  | _ => ("", [], "")

/-- Numbers in exponent form with a common number of decimals. -/
def exponentForms (xs : List Number.Binary) : List String :=
  let parts := xs.map exponentParts
  let wholes := aligned (parts.map (·.1))
  let places := (parts.map fun p => p.2.1.length).foldl max 0
  List.zipWith
    (fun whole p =>
      whole ++ "." ++ String.ofList p.2.1 ++ Number.zeros (places - p.2.1.length) ++ p.2.2)
    wholes parts

/-- Whether integers are too large, or too far apart, to be written positionally. -/
def needExponents (ns : List Int) : Bool :=
  let sizes := (ns.filter (· != 0)).map Int.natAbs
  let greatest := sizes.foldl max 0
  let least := sizes.foldl min greatest
  greatest ≥ 100000000 || greatest > 1000 * least

/-- The elements of an array as text. -/
def elementTexts (type : ElementType) (ns : List Int) : List String :=
  match type with
  | .signed | .unsigned => aligned (ns.map Text.signedDecimal)
  | .large => ns.map Text.signedDecimal
  | .float =>
    if needExponents ns then exponentForms (ns.map .ofInt)
    else aligned (ns.map fun n => Text.signedDecimal n ++ ".")

/-- Arrays with more elements than this are cut. -/
def arrayThreshold : Nat := 1000

/-- The elements that are written, with dots for those that are not. -/
def arrayWords (ns : List Int) : List String :=
  let type := elementType ns
  if ns.length > arrayThreshold then
    Text.insertAt 3 "..." (elementTexts type (Text.ends 3 ns))
  else elementTexts type ns

/-- A line without the blanks at its end. -/
def closeLine (line : String) : String :=
  String.ofList (Text.dropSuffixWhile (· == ' ') line.toList)

/-- Fill lines with words. A word that does not fit starts a new line after `indent` blanks, unless
nothing stands on the line yet. -/
def fillLines (separator : String) (indent width : Nat) (line : String) : List String → List String
  | [] => [line]
  | [word] =>
    if line.length + word.length > width && line.length > indent then
      [closeLine line, Text.blanks indent ++ word]
    else [line ++ word]
  | word :: rest =>
    if line.length + word.length > width && line.length > indent then
      let next := Text.blanks indent ++ word ++ separator
      closeLine line :: fillLines separator indent width next rest
    else fillLines separator indent width (line ++ word ++ separator) rest

/-- Words between brackets, in lines. -/
def fillBrackets (separator : String) (indent width : Nat) (words : List String) : String :=
  let body := Text.joinWith "\n" (fillLines separator indent width (Text.blanks indent) words)
  "[" ++ String.ofList (body.toList.drop indent) ++ "]"

/-- The characters of a line of an array. -/
def arrayLine : Nat := 75

/-- An array for display. The type follows on the same line if it fits. -/
def arrayShown (ns : List Int) : String :=
  let body := if ns.isEmpty then "[]" else fillBrackets ", " 7 (arrayLine - 2) (arrayWords ns)
  match (elementType ns).note ns.isEmpty with
  | none => "array(" ++ body ++ ")"
  | some type =>
    let text := "array(" ++ body ++ ","
    let note := "dtype=" ++ type ++ ")"
    let lastLine := (text.toList.reverse.takeWhile (· ≠ '\n')).length
    text ++ (if lastLine + note.length + 1 > arrayLine then "\n      " else " ") ++ note

/-- An array in its plain form. -/
def arrayText (ns : List Int) : String :=
  if ns.isEmpty then "[]" else fillBrackets " " 1 (arrayLine - 1) (arrayWords ns)

/-- The elements of an array, each on its own. -/
def elementForms (ns : List Int) : List String :=
  match elementType ns with
  | .float => ns.map fun n => floatText (.ofInt n)
  | _ => ns.map Text.signedDecimal

end Relational

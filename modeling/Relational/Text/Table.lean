import Relational.Text.Blank

/-!
# Tables of text

A table is a list of columns of text, the first of which labels the rows. Columns stand beside each
other with a blank between them. What does not fit is left out in the middle, and dots stand for it.
-/

namespace Relational.Text

/-- Some blanks. -/
def blanks (count : Nat) : String := String.ofList (List.replicate count ' ')

/-- Fill a text with blanks on the left up to the given number of characters. -/
def padStart (width : Nat) (s : String) : String := blanks (width - s.length) ++ s

/-- The greatest number of characters of some texts. -/
def widest (texts : List String) : Nat := (texts.map String.length).foldl max 0

/-- The lines of columns beside each other, each filled up to its greatest width. -/
def adjoin : List (List String) → List String
  | [] => []
  | [column] => column.map (padEnd (widest column))
  | column :: rest =>
    List.zipWith (· ++ ·) (column.map (padEnd (widest column + 1))) (adjoin rest)

/-- The first and the last of the items of a list. -/
def ends {α : Type} (count : Nat) (items : List α) : List α :=
  items.take count ++ items.drop (items.length - count)

/-- Texts without the blanks with which all of them begin. -/
def trimFront (texts : List String) : List String :=
  let starts := texts.map fun s => (s.toList.takeWhile (· == ' ')).length
  let common := starts.foldl min (starts.headD 0)
  texts.map fun s => String.ofList (s.toList.drop common)

/-- Half of a number, rounded to the nearest, ties to the even one. -/
def middle (n : Nat) : Nat := if n % 2 = 0 then n / 2 else n / 2 + n / 2 % 2

/-- The columns that remain when columns are left out in the middle until the excess of characters
is used up. A column takes a character more than its width. -/
def leaveOut : Nat → Int → List Nat → List Nat
  | 0, _, widths => widths
  | fuel + 1, excess, widths =>
    if excess ≤ 0 || widths.length ≤ 1 then widths
    else
      let place := middle widths.length
      leaveOut fuel (excess - (widths.getD place 0 + 1)) (widths.eraseIdx place)

/-- The number of characters of a line. -/
def lineLimit : Nat := 80

/-- The number of columns beside the row labels that fit into a line; at least two are kept. A row
whose cells hold line ends counts as several lines. -/
def fittingColumns (columns : List (List String)) : Nat :=
  let lines := (adjoin columns).flatMap fun s => s.splitOn "\n"
  let excess : Int := (widest lines : Int) - lineLimit + 1
  max ((leaveOut columns.length excess (columns.map widest)).length - 1) 2

/-- The dots that stand for rows in a column of the given width. -/
def rowDots (width : Nat) : String := if width > 3 then "..." else ".."

/-- Put an item after the first ones of a list. -/
def insertAt {α : Type} (place : Nat) (item : α) (items : List α) : List α :=
  items.take place ++ item :: items.drop place

/-- Put dots for rows after the heading and the first `shown` rows of a column. -/
def dotRows (shown : Nat) (alignDots : Nat → String → String) (column : List String) :
    List String :=
  let width := (column.getD shown "").length
  insertAt (shown + 1) (alignDots width (rowDots width)) column

/-- The columns of a table with dots for the columns left out after the first `shownColumns`, and
for the rows left out after the first `shownRows`. -/
def withDots (shownColumns shownRows : Option Nat) (labels : List String)
    (columns : List (List String)) : List (List String) :=
  let dotColumn := List.replicate labels.length " ..."
  let dotted := fun (align : Nat → String → String) (column : List String) =>
    match shownRows with
    | some shown => dotRows shown align column
    | none => column
  let columns := columns.map (dotted padStart)
  let columns := match shownColumns with
    | some shown => insertAt shown (dotted padStart dotColumn) columns
    | none => columns
  dotted padEnd labels :: columns

end Relational.Text

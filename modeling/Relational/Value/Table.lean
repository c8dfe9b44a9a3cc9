import Relational.Value.Column

/-!
# Tables of values

A table of values is written with a line for each row, which starts with the number of the row, and
a column for each label. Long cells are cut; of a long table only the first and the last rows are
written, and of a wide one only the outer columns.
-/

namespace Relational

/-- A column: its label, the kind of all its values, and the values that are written, each with its
own text if it has one. -/
structure Column where
  label : Label
  kind : ColumnKind
  cells : List (Value × Except Error String)

/-- Turn the rows of a table into the given number of columns. -/
def columnsOf {α : Type} : Nat → List (List α) → List (List α)
  | 0, _ => []
  | n + 1, rows => rows.filterMap List.head? :: columnsOf n (rows.map List.tail)

/-- The columns of a table of values, which have their own texts. -/
def tableColumns (labels : List Label) (rows : List (List Value))
    (texts : List (List (Except Error String))) : List Column :=
  let values := columnsOf labels.length rows
  let texts := columnsOf labels.length texts
  (labels.zip (values.zip texts)).map fun (label, values, texts) =>
    ⟨label, kindOf values, values.zip texts⟩

/-- Line ends and tabulators by their escapes. -/
def escapeBreaks (s : String) : String :=
  String.join (s.toList.map fun c =>
    if c == '\n' then "\\n" else if c == '\r' then "\\r" else if c == '\t' then "\\t"
    else String.ofList [c])

/-- The texts of labels. Positions alone are filled up to the same width. -/
def labelTexts (labels : List Label) : List String :=
  let positions := labels.filterMap fun k =>
    match k with
    | .position n => some n
    | .name _ => none
  if positions.length = labels.length then
    let texts := positions.map signPlace
    Text.trimFront (texts.map (Text.padEnd (Text.widest texts)))
  else Text.trimFront (labels.map fun k => " " ++ escapeBreaks k.text)

/-- The greatest number of characters of a cell. -/
def cellLimit : Nat := 50

/-- Cells with a common width, at least the given one; what is longer than the limit is cut. -/
def justifyCells (least : Nat) (texts : List String) : List String :=
  let width := min (max (Text.widest texts) least) cellLimit
  texts.map fun s =>
    Text.padStart width
      (if s.length > width then String.ofList (s.toList.take (width - 3)) ++ "..." else s)

/-- A column of text under its heading. -/
def columnText (heading : String) (c : Column) : Except Error (List String) := do
  let cells := justifyCells heading.length (← cellTexts c.kind c.cells)
  return Text.padStart (max (Text.widest cells) heading.length) heading :: cells

/-- The headings of columns: a label begins with a blank if the numbers below have a place for a
sign. Which labels do is taken from the kinds by position; of equal labels the last counts. -/
def headings (labels : List Label) (kinds : List ColumnKind) : List String :=
  let texts := labelTexts labels
  let numeric := (texts.zip (kinds.map ColumnKind.isNumeric)).reverse
  texts.map fun s => if (numeric.lookup s).getD false then " " ++ s else s

/-- The numbers of rows under an empty heading. -/
def rowLabels (numbers : List Nat) : List String :=
  let texts := numbers.map Text.decimal
  "" :: texts.map (Text.padEnd (Text.widest texts))

/-- More rows than this are not written. -/
def rowLimit : Nat := 60

/-- The number of first and of last rows that are written of a long table. -/
def rowEnds : Nat := 5

/-- The text columns of a table of which only the first and last columns may be left. -/
def textColumns (kinds : List ColumnKind) (shownColumns : Option Nat) (rows : Nat)
    (columns : List Column) : Except Error (List (List String)) := do
  let long := rows > rowLimit
  let columns := match shownColumns with
    | some shown => Text.ends shown columns
    | none => columns
  let cut := fun (c : Column) => if long then { c with cells := Text.ends rowEnds c.cells } else c
  let numbers := if long then Text.ends rowEnds (List.range rows) else List.range rows
  let headed := (headings (columns.map Column.label) kinds).zip (columns.map cut)
  let texts ← headed.mapM fun (heading, c) => columnText heading c
  return Text.withDots shownColumns (if long then some rowEnds else none) (rowLabels numbers) texts

/-- Some items, and dots if there are more than a hundred. -/
def enumerated (items : List String) : String :=
  bracketed "[" "]" (if items.length > 100 then items.take 100 ++ ["..."] else items)

/-- The size of a table, which follows one that is not written in full. -/
def sizeNote (rows columns : Nat) : String :=
  "\n\n[" ++ Text.decimal rows ++ " rows x " ++ Text.decimal columns ++ " columns]"

/-- A table without rows or without columns as text. -/
def emptyTableText (labels : List Label) (rows : Nat) : String :=
  "Empty DataFrame\nColumns: " ++ enumerated (labels.map Label.text) ++ "\nIndex: " ++
    enumerated ((List.range rows).map Text.decimal) ++
    (if labels.length > Text.lineLimit || rows > rowLimit then sizeNote rows labels.length else "")

/-- A table of values as text. -/
def tableText (labels : List Label) (rows : List (List Value))
    (texts : List (List (Except Error String))) : Except Error String := do
  if rows.isEmpty || labels.isEmpty then return emptyTableText labels rows.length
  let columns := tableColumns labels rows texts
  let kinds := columns.map Column.kind
  let first := if labels.length > Text.lineLimit then some (Text.lineLimit / 2) else none
  let fitting := Text.fittingColumns (← textColumns kinds first rows.length columns)
  let shown := if labels.length > fitting then some (fitting / 2) else none
  let lines := Text.adjoin (← textColumns kinds shown rows.length columns)
  return Text.joinWith "\n" lines ++
    (if shown.isSome || rows.length > rowLimit then sizeNote rows.length labels.length else "")

end Relational

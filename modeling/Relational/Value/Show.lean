import Relational.Value.Array
import Relational.Value.Kind
import Relational.Value.Table

/-!
# Written forms of values

Every value has a form for display and a plain form, which differ for scalars and arrays only. In a
cell of a table, containers up to three levels deep are written out with their texts unquoted,
except inside records; below that the plain form stands, with line ends escaped. A value has no form
if something that would be written has none.
-/

namespace Relational

/-- How a value is written: for display, plainly, or in a cell of a table, where it may stand inside
a record and inside some containers. -/
inductive Style where
  | shown
  | plain
  | cell (inRecord : Bool) (depth : Nat)
  deriving DecidableEq, Repr

namespace Style

/-- The number of levels that are written out in a cell. -/
def depthLimit : Nat := 3

/-- Whether containers are written out item by item in the style of cells. -/
def opensCells : Style → Bool
  | .cell _ depth => depth < depthLimit
  | _ => false

/-- The style of the items of a container. -/
def inside : Style → Style
  | .cell inRecord depth => if depth < depthLimit then .cell inRecord (depth + 1) else .shown
  | _ => .shown

/-- The style of the items of a record. -/
def insideRecord : Style → Style
  | .cell _ depth => if depth < depthLimit then .cell true (depth + 1) else .shown
  | _ => .shown

/-- Escape line ends in cells outside of records. -/
def escape (style : Style) (s : String) : String :=
  match style with
  | .cell false _ => escapeBreaks s
  | _ => s

/-- A text in a style. -/
def text (style : Style) (s : String) : String :=
  match style with
  | .shown => Text.quoted s
  | .plain => s
  | .cell true _ => "'" ++ s ++ "'"
  | .cell false _ => escapeBreaks s

/-- A label in a style. -/
def label (style : Style) : Label → String
  | .name s => style.text s
  | .position n => Text.signedDecimal n

/-- Items between brackets. A cell lists a hundred items and dots for the others; after a single
item of a tuple stands a comma. What is written out item by item is not escaped again. -/
def bracket (style : Style) (opening closing : String) (isTuple : Bool)
    (items : List (Except Error String)) : Except Error String := do
  if style.opensCells && items.length > 100 then
    return opening ++ Text.joinWith ", " (← (items.take 100).mapM id) ++ ", ..." ++ closing
  let items ← items.mapM id
  let body :=
    if isTuple && items.length == 1 then opening ++ Text.joinWith "" items ++ "," ++ closing
    else bracketed opening closing items
  return if style.opensCells then body else style.escape body

/-- Items between square brackets that all have a form. -/
def listing (style : Style) (items : List String) : Except Error String :=
  style.bracket "[" "]" false (items.map .ok)

/-- The form of a scalar or an array in a style. -/
def scalar (style : Style) : Value → Except Error String
  | .text s | .fixedText s => .ok (style.text s)
  | .array ns =>
    match style with
    | .shown => .ok (arrayShown ns)
    | .plain => .ok (arrayText ns)
    | .cell _ depth =>
      if depth < depthLimit then style.listing (elementForms ns)
      else .ok (style.escape (arrayText ns))
  | .bytes true data =>
    if style.opensCells then style.listing (data.map fun b => Text.decimal b.toNat)
    else (Value.bytes true data).scalarShown
  | v =>
    match style with
    | .shown => v.scalarShown
    | _ => v.scalarPlain.map style.escape

/-- A data frame in a style, from its table form. Inside another container of a cell only as many
labels are listed as it has rows. -/
def frame (style : Style) (columns : List Label) (rows : Nat) (table : Except Error String) :
    Except Error String :=
  match style with
  | .cell _ (depth + 1) =>
    if depth + 1 < depthLimit then
      style.listing ((columns.map style.inside.label).take rows)
    else table.map style.escape
  | _ => table

end Style

mutual

/-- The form of a value in a style. -/
def Value.write (style : Style) : Value → Except Error String
  | .list vs => style.bracket "[" "]" false (writeAll style.inside vs)
  | .tuple vs => style.bracket "(" ")" true (writeAll style.inside vs)
  | .set vs =>
    if vs.isEmpty && !style.opensCells then .ok "set()"
    else style.bracket "\x7b" "\x7d" false (writeAll style.inside vs)
  | .record frozen es =>
    if frozen && style.opensCells then style.listing (es.map fun e => style.inside.label e.1)
    else style.bracket "\x7b" "\x7d" false (writeEntries style.insideRecord es)
  | .frame columns rows =>
    style.frame columns rows.length (tableText columns rows (writeRows rows))
  | v => style.scalar v
termination_by structural v => v

/-- The forms of several values. -/
def writeAll (style : Style) : List Value → List (Except Error String)
  | [] => []
  | v :: vs => v.write style :: writeAll style vs
termination_by structural vs => vs

/-- The forms of the entries of a record. -/
def writeEntries (style : Style) : List (Label × Value) → List (Except Error String)
  | [] => []
  | (k, v) :: rest =>
    (v.write style).map (style.label k ++ ": " ++ ·) :: writeEntries style rest
termination_by structural es => es

/-- The forms of the cells of a table. -/
def writeRows : List (List Value) → List (List (Except Error String))
  | [] => []
  | row :: rows => writeAll (.cell false 0) row :: writeRows rows
termination_by structural rows => rows

end

namespace Value

/-- The form of a value for display. -/
def shown (v : Value) : Except Error String := v.write .shown

/-- The plain form of a value. -/
def plain (v : Value) : Except Error String := v.write .plain

/-- The form of a value within a sentence: as the plain one, but floating-point numbers of all
widths are written as doubles. -/
def formatted : Value → Except Error String
  | .fixedFloat _ x => .ok (floatText (x.convert Number.double))
  | v => v.plain

end Value
end Relational

import Relational.Record

/-!
# Result sets

A result set is a list of rows, or nothing if the statement had no result. A single row or a single
column is unwrapped; with the names of the columns, rows become records.
-/

namespace Relational

/-- The rows that a statement delivered, if it delivers rows at all. -/
abbrev ResultSet := Option (List (List Value))

/-- The first value of every row. -/
def firstColumn (rows : List (List Value)) : Except Error (List Value) :=
  rows.mapM fun row =>
    match row with
    | v :: _ => .ok v
    | [] => .error (.fault .badIndex)

/-- The only value of a list, or the list. -/
def unwrapSingle : List Value → Value
  | [v] => v
  | vs => .list vs

/-- Unwrap rows of one column, and then a single row. The first row tells the number of columns. -/
def simplify : ResultSet → Except Error Value
  | none | some [] => .ok (.list [])
  | some ([v] :: rows) => do return unwrapSingle (v :: (← firstColumn rows))
  | some rows => .ok (unwrapSingle (rows.map .tuple))

/-- A result set as it stands. -/
def rawResult : ResultSet → Value
  | none => .null
  | some rows => .list (rows.map .tuple)

/-- The rows as records over the given columns. Rows without columns cannot be named. -/
def recordsOf (columns : Option (List Label)) : ResultSet → Except Error (List Record)
  | none | some [] => .ok []
  | some rows =>
    match columns with
    | none => .error (.fault .wrongType)
    | some columns => .ok (rows.map fun row => .ofEntries (columns.zip row))

end Relational

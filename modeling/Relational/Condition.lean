import Relational.Expr.Reify
import Relational.Frame
import Relational.Report

/-!
# Conditions

Relations are restricted by conditions in many shapes: SQL text, records, data frames, other
relations, and lists of these. Each condition becomes a list of restrictions.
-/

namespace Relational

/-- The shapes of a condition. `other` stands for values that are none. -/
inductive Condition where
  | text (s : String)
  | record (r : Record)
  | frame (f : Frame)
  | list (items : List Condition)
  | tuple (items : List Condition)
  | restriction (r : Restriction)
  | expr (e : Expr)
  | query (e : Expr)
  | other (v : Value)

namespace Condition

/-- The condition that a value is, if it is no list. -/
def ofValue : Value → Condition
  | .text s | .fixedText s => .text s
  | .record _ entries => .record (.ofEntries entries)
  | .frame columns rows => .frame ⟨columns, rows⟩
  | v => .other v

mutual

/-- The form of a condition for display. -/
def shown : Condition → Except Error String
  | .text s => .ok (Text.quoted s)
  | .record r => (Value.record false r.entries).shown
  | .frame f => f.toValue.shown
  | .list items => do return bracketed "[" "]" (← shownItems items)
  | .tuple [item] => do return "(" ++ (← item.shown) ++ ",)"
  | .tuple items => do return bracketed "(" ")" (← shownItems items)
  | .restriction r => r.written
  | .expr e => .ok e.shown
  | .query e => .ok e.shownQuery
  | .other v => v.shown
termination_by structural c => c

/-- The forms of several conditions for display. -/
def shownItems : List Condition → Except Error (List String)
  | [] => .ok []
  | c :: cs => do return (← c.shown) :: (← shownItems cs)
termination_by structural cs => cs

end

/-- The record that a condition is. -/
def record? : Condition → Option Record
  | .record r => some r
  | _ => none

/-- The records of a list that consists of records only and is not empty. -/
def records? (items : List Condition) : Option (List Record) :=
  if items.isEmpty then none else items.mapM record?

/-- A condition in SQL, or the word that negates the next one. -/
def ofText (s : String) : Restriction :=
  if Text.lower (Text.strip s) = "not" then .not else .sql s

/-- The tuple set of a data frame. Repeated columns are reported. -/
def ofFrame (f : Frame) : Report Restriction := do
  if f.hasRepeatedColumns then notify .repeatedColumns
  return .tuples ⟨← f.records, f.columns.map fun k => .name k.text⟩

mutual

/-- The restrictions that a condition stands for. A list of records is one tuple set; any other list
stands for the restrictions of its items. -/
def restrictions : Condition → Report (List Restriction)
  | .text s => return [ofText s]
  | .record r => return [.tuples (.ofRecords [r])]
  | .frame f => return [← ofFrame f]
  | .list items | .tuple items =>
    match records? items with
    | some records => return [.tuples (.ofRecords records)]
    | none => allRestrictions items
  | .restriction r => return [r]
  | .expr e | .query e => return [.ofExpr e]
  | .other v => do throw (.restrictionShape (← v.shown) ("unsupported type " ++ v.kind))
termination_by structural c => c

/-- The restrictions of several conditions, from left to right. -/
def allRestrictions : List Condition → Report (List Restriction)
  | [] => return []
  | c :: cs => do
    let rs ← c.restrictions
    return rs ++ (← allRestrictions cs)
termination_by structural cs => cs

end

/-- Refuse a condition for its shape. -/
def refuse {α : Type} (reason : String) (c : Condition) : Report α := do
  throw (.restrictionShape (← c.shown) reason)

/-- The only restriction that a condition stands for; a marker does not count. -/
def sole (c : Condition) : Report Restriction := do
  match ← c.restrictions with
  | [.marker true] => c.refuse "expected exactly one restriction"
  | [r] => return r
  | _ => c.refuse "expected exactly one restriction"

/-- The operands that a condition adds to a union: those of the union that it is, or itself. -/
def operands (c : Condition) : Report (List Restriction) := do
  match ← c.sole with
  | .union operands => return operands
  | r => return [r]

/-- Whether an antijoin refuses the condition: a list with items other than records. -/
def isMixedList : Condition → Bool
  | .list items | .tuple items => !items.all fun c => c.record?.isSome
  | _ => false

end Condition

namespace Expr

/-- The union of two conditions, without nesting unions. -/
def unite (left right : Condition) : Report Expr := do
  let ls ← left.operands
  let rs ← right.operands
  unionOf (ls ++ rs)

/-- Restrict an expression by conditions. -/
def restrictBy (e : Expr) (conditions : List Condition) : Report Expr := do
  e.restrict (← Condition.allRestrictions conditions)

/-- Restrict an expression to the tuples that do not satisfy a condition. -/
def subtract (e : Expr) (c : Condition) : Report Expr := do
  if c.isMixedList then c.refuse "antijoin only accepts single restrictions"
  e.restrict [.not, ← c.sole]

end Expr
end Relational

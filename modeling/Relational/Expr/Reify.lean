import Relational.Expr.Digest
import Relational.Expr.Show

/-!
# Expressions as values

Table references, restrictions and expressions may stand among values. As values they are compared
by their parts: the operator, its specifications, inputs and restrictions.
-/

namespace Relational

/-- Texts as a tuple. -/
def Value.ofTexts (texts : List String) : Value := .tuple (texts.map .text)

/-- A table reference as a value. -/
def TableRef.toValue (t : TableRef) : Value :=
  .foreign "TableReference" (some t.shown) (some t.qualifiedName) [.text t.name, .text t.schema]
    t.digest

/-- The parts of a tuple set: its records and its fields. -/
def TupleSet.parts (t : TupleSet) : List Value :=
  [.tuple (t.records.map fun r => .record true r.entries), .tuple (t.fields.map .ofLabel)]

/-- An expression as a value with the given parts. -/
def Expr.reify (e : Expr) (parts : List Value) : Value :=
  .foreign e.kind (some e.shown) e.written.toOption parts e.digest

/-- A restriction as a value with the given parts. -/
def Restriction.reify (r : Restriction) (parts : List Value) : Value :=
  .foreign r.kind r.written.toOption r.written.toOption parts r.digest

mutual

/-- An expression as a value. -/
def Expr.toValue : Expr → Value
  | .table t h rs =>
    (Expr.table t h rs).reify [t.toValue, .tuple (restrictionValues rs)]
  | .project e specs rs =>
    (Expr.project e specs rs).reify [e.toValue, .ofTexts specs, .tuple (restrictionValues rs)]
  | .aggregate e g specs rs =>
    (Expr.aggregate e g specs rs).reify
      [e.toValue, g.toValue, .ofTexts specs, .tuple (restrictionValues rs)]
  | .join l r rs =>
    (Expr.join l r rs).reify [l.toValue, r.toValue, .tuple (restrictionValues rs)]
  | .union operands => (Expr.union operands).reify [.tuple (restrictionValues operands)]
  | .negation e => (Expr.negation e).reify [e.toValue]
termination_by structural e => e

/-- A restriction as a value. -/
def Restriction.toValue : Restriction → Value
  | .sql text => (Restriction.sql text).reify [.text text]
  | .tuples t => (Restriction.tuples t).reify t.parts
  | .semijoin e => (Restriction.semijoin e).reify [e.toValue]
  | .marker effective => (Restriction.marker effective).reify []
  | .union operands => (Restriction.union operands).reify [.tuple (restrictionValues operands)]
  | .complement r => (Restriction.complement r).reify [r.toValue]
termination_by structural r => r

/-- Restrictions as values. -/
def restrictionValues : List Restriction → List Value
  | [] => []
  | r :: rs => r.toValue :: restrictionValues rs
termination_by structural rs => rs

end

/-- The form of a query for display. -/
def Expr.shownQuery (e : Expr) : String := "Relvar(" ++ e.shown ++ ")"

/-- A query as a value; it differs from all others. -/
def Expr.queryValue (e : Expr) : Value :=
  .foreign "Relvar" (some e.shownQuery) e.inspection.toOption [] .unique

end Relational

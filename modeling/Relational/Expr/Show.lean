import Relational.Expr
import Relational.Value.Show

/-!
# Written forms of expressions

The label of an expression names its outermost operator; the outline adds the restrictions and lists
the inputs below it, indented.
-/

namespace Relational

/-- The label of a tuple set: the number of its records, and its fields. -/
def TupleSet.label (t : TupleSet) : String :=
  "TupleSet(" ++ Text.decimal t.records.length ++ " records on " ++
    Text.joinWith ", " (t.fields.map Label.text) ++ ")"

/-- A line of an outline; lines below the first are marked. -/
def outlineLine (indentation : Nat) (line : String) : String :=
  if indentation = 0 then line
  else String.ofList (List.replicate indentation ' ') ++ "<- " ++ line

/-- The restrictions of an operator, if there are any. -/
def restrictionNote (labels : List String) : String :=
  if labels.isEmpty then "" else " σ[" ++ Text.joinWith ", " labels ++ "]"

mutual

/-- The label of an expression. -/
def Expr.label : Expr → String
  | .table t _ _ => t.qualifiedName
  | .project _ specs _ => "π (" ++ Text.joinWith ", " specs ++ ")"
  | .aggregate _ _ specs _ => "γ (" ++ Text.joinWith ", " specs ++ ")"
  | .join .. => "⋈"
  | .union operands =>
    Text.joinWith " ∪ " ((restrictionLabels operands).map fun s => "(" ++ s ++ ")")
  | .negation e => "¬ (" ++ e.label ++ ")"
termination_by structural e => e

/-- The label of a restriction. -/
def Restriction.label : Restriction → String
  | .sql text => text
  | .tuples t => t.label
  | .semijoin e => "⋉ " ++ e.label
  | .marker _ => "NOT"
  | .union operands =>
    Text.joinWith " ∪ " ((restrictionLabels operands).map fun s => "(" ++ s ++ ")")
  | .complement (.semijoin e) => "¬ (" ++ e.label ++ ")"
  | .complement r => "¬ (" ++ r.label ++ ")"
termination_by structural r => r

/-- The labels of several restrictions. -/
def restrictionLabels : List Restriction → List String
  | [] => []
  | r :: rs => r.label :: restrictionLabels rs
termination_by structural rs => rs

end

mutual

/-- The outermost operator applied to its inputs. -/
def Expr.shown : Expr → String
  | .table t _ _ => "Table(" ++ t.shown ++ ")"
  | .project e _ _ => "Projection(" ++ e.shown ++ ")"
  | .aggregate e g _ _ => "Aggregation(" ++ e.shown ++ ", " ++ g.shown ++ ")"
  | .join l r _ => "NaturalJoin(" ++ l.shown ++ ", " ++ r.shown ++ ")"
  | .union operands => bracketed "Union(" ")" (Restriction.shownInputs operands)
  | .negation e => "Negation(" ++ e.shown ++ ")"
termination_by structural e => e

/-- The relation that a restriction matches, if it is a match. -/
def Restriction.shownInput : Restriction → Option String
  | .semijoin e => some e.shown
  | _ => none
termination_by structural r => r

/-- The relations that restrictions match. -/
def Restriction.shownInputs : List Restriction → List String
  | [] => []
  | r :: rs => r.shownInput.toList ++ Restriction.shownInputs rs
termination_by structural rs => rs

end

mutual

/-- The lines of the outline of an expression. -/
def Expr.outline (indentation : Nat) : Expr → List String
  | .table t h rs =>
    [outlineLine indentation ((Expr.table t h rs).label ++ restrictionNote (restrictionLabels rs))]
  | .project e specs rs =>
    outlineLine indentation
      ((Expr.project e specs rs).label ++ restrictionNote (restrictionLabels rs)) ::
      e.outline (indentation + 2)
  | .aggregate e g specs rs =>
    outlineLine indentation
      ((Expr.aggregate e g specs rs).label ++ restrictionNote (restrictionLabels rs)) ::
      (e.outline (indentation + 2) ++ g.outline (indentation + 2))
  | .join l r rs =>
    outlineLine indentation
      ((Expr.join l r rs).label ++ restrictionNote (restrictionLabels rs)) ::
      (l.outline (indentation + 2) ++ r.outline (indentation + 2))
  | .union operands =>
    outlineLine indentation (Expr.union operands).label ::
      Restriction.outlines (indentation + 2) operands
  | .negation e =>
    outlineLine indentation (Expr.negation e).label :: e.outline (indentation + 2)
termination_by structural e => e

/-- The outline of the relation that a restriction matches. -/
def Restriction.outline (indentation : Nat) : Restriction → List String
  | .semijoin e => e.outline indentation
  | _ => []
termination_by structural r => r

/-- The outlines of the relations that restrictions match. -/
def Restriction.outlines (indentation : Nat) : List Restriction → List String
  | [] => []
  | r :: rs => r.outline indentation ++ Restriction.outlines indentation rs
termination_by structural rs => rs

end

mutual

/-- Whether the label of an expression can be written. A tuple set with a position among its fields
has no label. -/
def Expr.isWritable : Expr → Bool
  | .union operands => areWritable operands
  | .negation e => e.isWritable
  | .table .. | .project .. | .aggregate .. | .join .. => true
termination_by structural e => e

/-- Whether the label of a restriction can be written. -/
def Restriction.isWritable : Restriction → Bool
  | .sql _ | .marker _ => true
  | .tuples t => t.fields.all Label.isName
  | .semijoin e => e.isWritable
  | .union operands => areWritable operands
  | .complement r => r.isWritable
termination_by structural r => r

/-- Whether the labels of all restrictions can be written. -/
def areWritable : List Restriction → Bool
  | [] => true
  | r :: rs => r.isWritable && areWritable rs
termination_by structural rs => rs

end

mutual

/-- Whether the outline of an expression can be written. -/
def Expr.hasOutline : Expr → Bool
  | .table _ _ rs => areWritable rs
  | .project e _ rs => areWritable rs && e.hasOutline
  | .aggregate e g _ rs => areWritable rs && e.hasOutline && g.hasOutline
  | .join l r rs => areWritable rs && l.hasOutline && r.hasOutline
  | .union operands => areWritable operands && Restriction.haveOutlines operands
  | .negation e => e.isWritable && e.hasOutline
termination_by structural e => e

/-- Whether the outline of the relation that a restriction matches can be written. -/
def Restriction.hasOutline : Restriction → Bool
  | .semijoin e => e.hasOutline
  | _ => true
termination_by structural r => r

/-- Whether the outlines of the relations that restrictions match can be written. -/
def Restriction.haveOutlines : List Restriction → Bool
  | [] => true
  | r :: rs => r.hasOutline && Restriction.haveOutlines rs
termination_by structural rs => rs

end

/-- The label of an expression, if it can be written. -/
def Expr.written (e : Expr) : Except Error String :=
  if e.isWritable then .ok e.label else .error (.fault .wrongType)

/-- The label of a restriction, if it can be written. -/
def Restriction.written (r : Restriction) : Except Error String :=
  if r.isWritable then .ok r.label else .error (.fault .wrongType)

/-- The outline of an expression as text. -/
def Expr.inspect (e : Expr) : String := Text.joinWith "\n" (e.outline 0)

/-- The outline of an expression as text, if it can be written. -/
def Expr.inspection (e : Expr) : Except Error String :=
  if e.hasOutline then .ok e.inspect else .error (.fault .wrongType)

mutual

/-- The operators of an expression in depth-first order. -/
def Expr.walk : Expr → List String
  | .table .. => ["Table"]
  | .project e _ _ => "Projection" :: e.walk
  | .aggregate e g _ _ => "Aggregation" :: (e.walk ++ g.walk)
  | .join l r _ => "NaturalJoin" :: (l.walk ++ r.walk)
  | .union operands => "Union" :: Restriction.walks operands
  | .negation e => "Negation" :: e.walk
termination_by structural e => e

/-- The operators of the relation that a restriction matches. -/
def Restriction.walk : Restriction → List String
  | .semijoin e => e.walk
  | _ => []
termination_by structural r => r

/-- The operators of the relations that restrictions match. -/
def Restriction.walks : List Restriction → List String
  | [] => []
  | r :: rs => r.walk ++ Restriction.walks rs
termination_by structural rs => rs

end

mutual

/-- The tables of an expression in depth-first order, without those of its restrictions. -/
def Expr.tables : Expr → List TableRef
  | .table t _ _ => [t]
  | .project e _ _ => e.tables
  | .aggregate e g _ _ => e.tables ++ g.tables
  | .join l r _ => l.tables ++ r.tables
  | .union operands => Restriction.allTables operands
  | .negation e => e.tables
termination_by structural e => e

/-- The tables of the relation that a restriction matches. -/
def Restriction.tables : Restriction → List TableRef
  | .semijoin e => e.tables
  | _ => []
termination_by structural r => r

/-- The tables of the relations that restrictions match. -/
def Restriction.allTables : List Restriction → List TableRef
  | [] => []
  | r :: rs => r.tables ++ Restriction.allTables rs
termination_by structural rs => rs

end

end Relational

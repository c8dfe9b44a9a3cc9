import Relational.Header
import Relational.TupleSet

/-!
# Relational expressions

An expression is a tree of operators over tables. Every operator that stands for a relation carries
the restrictions on its output, which hold together. Unions and negations only restrict other
relations.
-/

namespace Relational

mutual

/-- A relational expression. Specifications are kept as they were written and read when the
expression is compiled. -/
inductive Expr where
  | table (table : TableRef) (header : Header) (restrictions : List Restriction)
  | project (input : Expr) (specs : List String) (restrictions : List Restriction)
  | aggregate (input grouping : Expr) (specs : List String) (restrictions : List Restriction)
  | join (left right : Expr) (restrictions : List Restriction)
  | union (operands : List Restriction)
  | negation (input : Expr)

/-- A restriction on the tuples of a relation: a condition in SQL, membership in a tuple set, a
match in another relation, a union of restrictions, or the complement of one. A marker negates the
restriction that follows it; a marker without effect is refused when it is compiled. -/
inductive Restriction where
  | sql (text : String)
  | tuples (set : TupleSet)
  | semijoin (e : Expr)
  | marker (effective : Bool)
  | union (operands : List Restriction)
  | complement (r : Restriction)

end

/-- The marker that negates the restriction after it. -/
def Restriction.not : Restriction := .marker true

/-- The restriction that an expression stands for: a match in the relation, unless the expression is
a union or a negation. -/
def Restriction.ofExpr : Expr → Restriction
  | .union operands => .union operands
  | .negation e => .complement (.ofExpr e)
  | e => .semijoin e

namespace Expr

/-- The restrictions on the output of the outermost operator. -/
def restrictions : Expr → List Restriction
  | .table _ _ rs | .project _ _ rs | .aggregate _ _ _ rs | .join _ _ rs => rs
  | .union _ | .negation _ => []

/-- Replace the restrictions of the outermost operator; unions and negations take none. -/
def setRestrictions (rs : List Restriction) : Expr → Except Error Expr
  | .table t h _ => .ok (.table t h rs)
  | .project e specs _ => .ok (.project e specs rs)
  | .aggregate e g specs _ => .ok (.aggregate e g specs rs)
  | .join l r _ => .ok (.join l r rs)
  | .union _ => .error (.invalidStandalone .union)
  | .negation _ => .error (.invalidStandalone .negation)

/-- Add restrictions to the outermost operator. -/
def restrict (e : Expr) (rs : List Restriction) : Except Error Expr :=
  if rs.isEmpty then .ok e else e.setRestrictions (e.restrictions ++ rs)

/-- Drop the restrictions of the outermost operator. -/
def unrestricted : Expr → Expr
  | .table t h _ => .table t h []
  | .project e specs _ => .project e specs []
  | .aggregate e g specs _ => .aggregate e g specs []
  | .join l r _ => .join l r []
  | .union operands => .union operands
  | .negation e => .negation e

/-- The union of at least two restrictions. -/
def unionOf (operands : List Restriction) : Except Error Expr :=
  if operands.length < 2 then .error .shortUnion else .ok (.union operands)

/-- The negation of an expression; negating twice gives the expression back. -/
def negate : Expr → Expr
  | .negation e => e
  | e => .negation e

/-- The relations among the operands of a union. -/
def semijoined (operands : List Restriction) : List Expr :=
  operands.filterMap fun r =>
    match r with
    | .semijoin e => some e
    | _ => none

/-- The inputs of the outermost operator, from left to right. -/
def children : Expr → List Expr
  | .table .. => []
  | .project e _ _ => [e]
  | .aggregate e g _ _ => [e, g]
  | .join l r _ => [l, r]
  | .union operands => semijoined operands
  | .negation e => [e]

/-- The name of the outermost operator. -/
def kind : Expr → String
  | .table .. => "Table"
  | .project .. => "Projection"
  | .aggregate .. => "Aggregation"
  | .join .. => "NaturalJoin"
  | .union _ => "Union"
  | .negation _ => "Negation"

end Expr

/-- The name of a kind of restriction. -/
def Restriction.kind : Restriction → String
  | .sql _ => "SqlCondition"
  | .tuples _ => "TupleSet"
  | .semijoin _ => "RelationRestriction"
  | .marker _ => "NegationMarker"
  | .union _ => "UnionRestriction"
  | .complement _ => "NegatedRestriction"

end Relational

import Relational.Compile

/-!
# Tables and restrictions at every depth

An expression reads tables as its inputs and inside its restrictions, where relations are matched.
`Expr.Everywhere` says that all of them have a property, and all restrictions another one.
`Expr.standalone` lists the expressions that are asked for a relation of their own.
-/

namespace Relational

/-- A header has exactly the given columns as they are, without aliases and expressions. -/
structure Header.Lists (h : Header) (columns : List String) : Prop where
  plain : ∀ a ∈ h.attributes, a.aliasName = "" ∧ a.expression = none
  names : ∀ n, n ∈ h.names ↔ n ∈ columns

section Everywhere

variable (onTable : TableRef → Header → Prop) (onRestriction : Restriction → Prop)

mutual

/-- All tables and all restrictions of an expression have the given properties. -/
def Expr.Everywhere : Expr → Prop
  | .table t h rs => onTable t h ∧ AreEverywhere rs
  | .project e _ rs => e.Everywhere ∧ AreEverywhere rs
  | .aggregate e g _ rs => e.Everywhere ∧ g.Everywhere ∧ AreEverywhere rs
  | .join l r rs => l.Everywhere ∧ r.Everywhere ∧ AreEverywhere rs
  | .union rs => AreEverywhere rs
  | .negation e => e.Everywhere
termination_by structural e => e

/-- A restriction and all tables and restrictions inside it have the given properties. -/
def Restriction.Everywhere : Restriction → Prop
  | .sql text => onRestriction (.sql text)
  | .tuples t => onRestriction (.tuples t)
  | .semijoin e => onRestriction (.semijoin e) ∧ e.Everywhere
  | .marker effective => onRestriction (.marker effective)
  | .union rs => onRestriction (.union rs) ∧ AreEverywhere rs
  | .complement r => onRestriction (.complement r) ∧ r.Everywhere
termination_by structural r => r

/-- Several restrictions and what is inside them have the given properties. -/
def AreEverywhere : List Restriction → Prop
  | [] => True
  | r :: rs => r.Everywhere ∧ AreEverywhere rs
termination_by structural rs => rs

end

variable {onTable onRestriction}

theorem Expr.Everywhere.restrictions {e : Expr} (h : e.Everywhere onTable onRestriction) :
    AreEverywhere onTable onRestriction e.restrictions := by
  cases e with
  | table t k rs => exact h.2
  | project e specs rs => exact h.2
  | aggregate e g specs rs => exact h.2.2
  | join l r rs => exact h.2.2
  | union rs => trivial
  | negation e => trivial

end Everywhere

/-! ### Expressions that stand alone -/

/-- The operator of an expression that only restricts others; none if it has a relation. -/
def Expr.restrictor? : Expr → Option Standalone
  | .union _ => some .union
  | .negation _ => some .negation
  | _ => none

mutual

/-- The expressions that stand alone in an expression: itself, its inputs, and the relations that
are matched in its restrictions, with what stands alone in them. What is inside a union or a
negation that stands alone is never looked at. -/
def Expr.standalone : Expr → List Expr
  | .table t h rs => .table t h rs :: standaloneAll rs
  | .project e specs rs => .project e specs rs :: (e.standalone ++ standaloneAll rs)
  | .aggregate e g specs rs =>
    .aggregate e g specs rs :: (e.standalone ++ g.standalone ++ standaloneAll rs)
  | .join l r rs => .join l r rs :: (l.standalone ++ r.standalone ++ standaloneAll rs)
  | .union rs => [.union rs]
  | .negation e => [.negation e]
termination_by structural e => e

/-- The expressions that stand alone in a restriction, where only relations to match in do. -/
def Restriction.standalone : Restriction → List Expr
  | .sql _ | .tuples _ | .marker _ => []
  | .semijoin e => e.standalone
  | .union rs => standaloneAll rs
  | .complement r => r.standalone
termination_by structural r => r

/-- The expressions that stand alone in several restrictions. -/
def standaloneAll : List Restriction → List Expr
  | [] => []
  | r :: rs => r.standalone ++ standaloneAll rs
termination_by structural rs => rs

end

/-- The expressions that stand alone in the inputs of an operator. -/
def Expr.inInputs : Expr → List Expr
  | .table .. | .union _ | .negation _ => []
  | .project e _ _ => e.standalone
  | .aggregate e g _ _ => e.standalone ++ g.standalone
  | .join l r _ => l.standalone ++ r.standalone

theorem standalone_eq (e : Expr) :
    e.standalone = e :: (e.inInputs ++ standaloneAll e.restrictions) := by
  cases e <;> rfl

end Relational

import Relational.Expr

/-!
# Equality of expressions

Expressions are equal if their operators, specifications, inputs and restrictions are. The header of
a table does not count, since the table determines it. Parts are compared up to the first
difference; the question has no answer if it comes down to values that cannot be compared.
-/

namespace Relational

/-- Go on with a second comparison if a first one holds. -/
def andThen (first second : Report Bool) : Report Bool := do
  if ← first then second else return false

mutual

/-- Equality of expressions. -/
def Expr.same : Expr → Expr → Report Bool
  | .table t _ rs, .table u _ qs => andThen (pure (t == u)) (sameRestrictions rs qs)
  | .project e specs rs, .project f specs' qs =>
    andThen (e.same f) (andThen (pure (specs == specs')) (sameRestrictions rs qs))
  | .aggregate e g specs rs, .aggregate f k specs' qs =>
    andThen (e.same f) (andThen (g.same k)
      (andThen (pure (specs == specs')) (sameRestrictions rs qs)))
  | .join l r rs, .join l' r' qs =>
    andThen (l.same l') (andThen (r.same r') (sameRestrictions rs qs))
  | .union operands, .union operands' => sameRestrictions operands operands'
  | .negation e, .negation f => e.same f
  | _, _ => return false
termination_by structural e => e

/-- Equality of restrictions. All markers are equal. -/
def Restriction.same : Restriction → Restriction → Report Bool
  | .sql s, .sql t => return s == t
  | .tuples t, .tuples u => t.same u
  | .semijoin e, .semijoin f => e.same f
  | .marker _, .marker _ => return true
  | .union operands, .union operands' => sameRestrictions operands operands'
  | .complement r, .complement q => r.same q
  | _, _ => return false
termination_by structural r => r

/-- Equality of restrictions place by place. -/
def sameRestrictions : List Restriction → List Restriction → Report Bool
  | [], [] => return true
  | r :: rs, q :: qs => andThen (r.same q) (sameRestrictions rs qs)
  | _, _ => return false
termination_by structural rs => rs

end

end Relational

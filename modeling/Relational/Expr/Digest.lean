import Relational.Expr
import Relational.Value.Digest

/-!
# Digests of expressions

The digest of an expression depends on its operators, specifications, inputs and restrictions. Of a
tuple set only the fields and the number of records count, since records may hold values without a
digest. The header of a table does not count.
-/

namespace Relational

/-- The digest of a list of texts. -/
def Digest.ofTexts (texts : List String) : Digest := .tuple (texts.map .ofText)

/-- The digest of a table reference. -/
def TableRef.digest (t : TableRef) : Digest := .ofTexts [t.name, t.schema]

/-- The digest of a tuple set. -/
def TupleSet.digest (t : TupleSet) : Digest :=
  .tuple [.tuple (t.fields.map Label.digest), .ofInt t.records.length]

/-- The digest of an operator with its own parts and its restrictions. -/
def Digest.operator (kind : String) (part : Digest) (restrictions : List Digest) : Digest :=
  .tuple [.ofText kind, part.reduce, .tuple restrictions]

mutual

/-- The digest of an expression. -/
def Expr.digest : Expr → Digest
  | .table t _ rs => .operator "Table" t.digest (restrictionDigests rs)
  | .project e specs rs =>
    .operator "Projection" (.tuple [e.digest, .ofTexts specs]) (restrictionDigests rs)
  | .aggregate e g specs rs =>
    .operator "Aggregation" (.tuple [e.digest, g.digest, .ofTexts specs]) (restrictionDigests rs)
  | .join l r rs =>
    .operator "NaturalJoin" (.tuple [l.digest, r.digest]) (restrictionDigests rs)
  | .union operands => .operator "Union" (.tuple (restrictionDigests operands)) []
  | .negation e => .operator "Negation" e.digest []
termination_by structural e => e

/-- The digest of a restriction: that of its expression, if it has one. -/
def Restriction.digest : Restriction → Digest
  | .sql text => .ofText text
  | .tuples t => t.digest
  | .semijoin e => e.digest
  | .marker _ => .word "NegationMarker"
  | .union operands => .operator "Union" (.tuple (restrictionDigests operands)) []
  | .complement r => .operator "Negation" r.digest []
termination_by structural r => r

/-- The digests of several restrictions. -/
def restrictionDigests : List Restriction → List Digest
  | [] => []
  | r :: rs => r.digest :: restrictionDigests rs
termination_by structural rs => rs

end

end Relational

import Relational.Record.Equality

/-!
# Tuple sets

A tuple set restricts a relation to the tuples that match one of its records. Its fields are kept
apart from the records, so that a set without records can still have fields.
-/

namespace Relational

/-- The labels of a list without repetitions, at their first places. -/
def distinctLabels : List Label → List Label
  | [] => []
  | k :: rest => k :: (distinctLabels rest).filter (· ≠ k)

/-- Whether a label is a name. -/
def Label.isName : Label → Bool
  | .name _ => true
  | .position _ => false

/-- Records and the fields that they are taken to have. -/
structure TupleSet where
  records : List Record
  fields : List Label

namespace TupleSet

/-- The tuple set whose fields are the labels of its records, in order of appearance. -/
def ofRecords (records : List Record) : TupleSet :=
  ⟨records, distinctLabels (records.flatMap fun r => labels r.entries)⟩

/-- Restrict a tuple set to some fields, in the order given. -/
def project (t : TupleSet) (names : List String) : TupleSet :=
  let kept := (names.map Label.name).filter (· ∈ t.fields)
  ⟨t.records.map fun r => r.project kept, kept⟩

/-- Equality of tuple sets: equal records in the same order and the same fields. -/
def same (t u : TupleSet) : Report Bool := do
  if ← Record.sameAll t.records u.records then return t.fields == u.fields else return false

end TupleSet
end Relational

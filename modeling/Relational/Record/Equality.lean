import Relational.Record
import Relational.Value.Equality

/-!
# Equality of records

Records are equal if they have the same labels with equal values, in any order. Lists of records are
compared place by place.
-/

namespace Relational

namespace Record

/-- Equality of records, without regard to order. -/
def sameAs (r q : Record) : Report Bool :=
  if r.size = q.size then Value.entriesWithin r.entries q.entries else return false

/-- Equality of lists of records, up to the first difference. -/
def sameAll : List Record → List Record → Report Bool
  | [], [] => return true
  | r :: rs, q :: qs => do if ← r.sameAs q then sameAll rs qs else return false
  | _, _ => return false

end Record
end Relational

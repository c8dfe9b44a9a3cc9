import Relational.Sorting
import Relational.Value.Equality
import Relational.Value.Kind

/-!
# Order of values

Numbers, texts, data, calendar values and tuples have an order among themselves, sets have one by
inclusion. Values that have none cannot be compared. A decimal has no order with what is not a
number, and scalars of fixed width are compared element by element, as for equality.
-/

namespace Relational

namespace Value

/-- The order of data, byte by byte. -/
def bytesBefore : List UInt8 → List UInt8 → Bool
  | _, [] => false
  | [], _ :: _ => true
  | a :: as, b :: bs => a < b || (a == b && bytesBefore as bs)

/-- The order of days. -/
def dateBefore (a b : Date) : Bool := a.dayNumber < b.dayNumber

/-- There is no order. -/
def unordered : Except Error Bool := .error (.fault .wrongType)

/-- The order of two moments or times that have offsets both or neither. -/
def zonedBefore (z w : Option Int) (a b : Int) : Except Error Bool :=
  if z.isSome == w.isSome then .ok (a < b) else unordered

/-- Whether a value is a decimal. -/
def isDecimal : Value → Bool
  | .decimal _ => true
  | _ => false

/-- The order of two real numbers. -/
def quantityBefore (v w : Value) (a b : Number.Exact) : Except Error Bool :=
  if (v.isDecimal || w.isDecimal) && (a == .nan || b == .nan) then
    .error (.fault .invalidOperation)
  else .ok (a.less b)

/-- The order of two scalars that are no numbers. -/
def thingBefore (v w : Value) : Except Error Bool :=
  match v.text?, w.text?, v.stamp?, w.stamp? with
  | some s, some t, _, _ => .ok (s < t)
  | none, none, some s, some t =>
    zonedBefore s.moment.offset t.moment.offset s.instant t.instant
  | none, none, none, none =>
    match v, w with
    | .bytes _ a, .bytes _ b => .ok (bytesBefore a b)
    | .date a, .date b => .ok (dateBefore a b)
    | .time a, .time b =>
      zonedBefore a.offset b.offset
        ((a.clock.microseconds : Int) - a.offset.getD 0 * 1000000)
        ((b.clock.microseconds : Int) - b.offset.getD 0 * 1000000)
    | .foreign "TableReference" _ _ [.text a, .text s] _,
      .foreign "TableReference" _ _ [.text b, .text t] _ => .ok (s < t || (s == t && a < b))
    | _, _ => unordered
  | _, _, _, _ => unordered

/-- The order of two scalars by their exact values. -/
def scalarBefore (v w : Value) : Except Error Bool :=
  match v.quantity?, w.quantity? with
  | some a, some b => quantityBefore v w a b
  | some _, none | none, some _ => unordered
  | none, none => thingBefore v w

/-- The order of complex numbers: by the real parts, and by the others if those are equal. -/
def complexBefore (a b c d : Number.Exact) : Bool :=
  (a.less c && b != .nan && d != .nan) || (a.same c && b.less d)

/-- What a counted moment is compared as with other things. -/
def asPlain : Value → Value
  | .fixedDate t => ofTick t
  | v => v

/-- The order of two elements, of which one may be a counted moment. -/
def elementBefore (v w : Value) : Except Error Bool :=
  match v, w with
  | .fixedDate t, .fixedDate u =>
    match t.compare? (· < ·) u with
    | some b => .ok b
    | none => .error (.fault .overflow)
  | v, w =>
    match v.word?, w.word? with
    | some a, some b => .ok (a < b)
    | _, _ =>
      match v.doubles?, w.doubles? with
      | some (a, b), some (c, d) => .ok (complexBefore a.exact b.exact c.exact d.exact)
      | some _, none => if w.tick?.isSome then unordered else scalarBefore v w
      | none, some _ => if v.tick?.isSome then unordered else scalarBefore v w
      | none, none => scalarBefore v.asPlain w.asPlain

/-- The order of values that are not both lists, tuples or sets. -/
def beforeMixed (v w : Value) : Report Bool :=
  match v, w with
  | .frame .., _ | _, .frame .. => throw (.fault .badValue)
  | .bytes true a, w =>
    match w.memory? with
    | some b => return bytesBefore a b
    | none => unordered
  | .decimal _, .fixedInt .. => unordered
  | v, w =>
    if v.isFixed || w.isFixed then compareElements elementBefore v w else scalarBefore v w

mutual

/-- Whether a value comes before another one. Lists and tuples are ordered by their first
difference. -/
def before : Value → Value → Report Bool
  | .list vs, .list ws | .tuple vs, .tuple ws => allBefore vs ws
  | .set vs, .set ws =>
    if vs.length < ws.length then membersWithin (members vs) ws else return false
  | v, w => v.beforeMixed w
termination_by structural v => v

/-- The order of lists of values by their first difference. -/
def allBefore : List Value → List Value → Report Bool
  | _, [] => return false
  | [], _ :: _ => return true
  | v :: vs, w :: ws => do if ← v.same w then allBefore vs ws else v.before w
termination_by structural vs => vs

end

/-- Whether a value comes before another one: by their order, or else by the names of their kinds.
-/
def beforeOrKind (v w : Value) : Report Bool := do
  try v.before w
  catch
    | .fault .wrongType => return v.fullKind < w.fullKind
    | e => throw e

/-- Values in ascending order. -/
def sort (vs : List Value) : Report (List Value) := Sorting.sort before vs

end Value
end Relational

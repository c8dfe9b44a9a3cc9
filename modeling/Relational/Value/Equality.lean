import Relational.Value.Digest
import Relational.Value.Memory

/-!
# Equality of values

Numbers are equal if their exact values are, whatever their kinds; text is equal by its characters
and moments are equal in universal time. Lists, tuples, sets and records are compared by what they
hold, records without regard to the order of their entries. What is not a number equals nothing, and
a signalling one cannot be compared with numbers at all.

Scalars of fixed width and arrays are compared element by element, lists and tuples counting as
arrays: integers exactly, other numbers as doubles, counted moments in a common unit. A
floating-point number on its own gives way to the type of an array if its size allows. Only a
comparison of single elements has an answer; one without elements is answered in the negative with a
notice. Data frames cannot be compared, and neither can a decimal with an integer of fixed width.
Growable data is compared with what a value occupies in memory.
-/

namespace Relational

namespace Value

/-- The real and imaginary parts of a number. -/
def parts? : Value → Option (Number.Exact × Number.Exact)
  | .complex re im => some (re.exact, im.exact)
  | v => v.quantity?.map fun x => (x, .quotient 0 1)

/-- The moment of a value with a day and a time of day. -/
def stamp? : Value → Option Timestamp
  | .datetime t => some { moment := t }
  | .timestamp t => some t
  | _ => none

/-- Equality of two scalars that are no numbers. -/
def sameThing (v w : Value) : Bool :=
  match v.text?, w.text? with
  | some s, some t => s == t
  | some _, none | none, some _ => false
  | none, none =>
    match v.stamp?, w.stamp? with
    | some s, some t => s.same t
    | some _, none | none, some _ => false
    | none, none =>
      match v, w with
      | .null, .null => true
      | .bytes _ a, .bytes _ b => a == b
      | .date a, .date b => a == b
      | .time a, .time b => a.same b
      | _, _ => false

/-- Equality of two scalars by their exact values. A signalling decimal stops a comparison with a
number that may be real. -/
def sameScalar (v w : Value) : Except Error Bool :=
  match v.parts?, w.parts? with
  | some (a, b), some (c, d) =>
    if (v.isSignaling || w.isSignaling) && b.isZero && d.isZero then
      .error (.fault .invalidOperation)
    else .ok (a.same c && b.same d)
  | some _, none | none, some _ => .ok false
  | none, none => .ok (v.sameThing w)

/-! ### Scalars of fixed width -/

/-- The integer of a machine word. -/
def word? : Value → Option Int
  | .bool b | .fixedBool b => some (if b then 1 else 0)
  | .fixedInt _ n => some n
  | .int n =>
    if IntegerType.int64.holds n || IntegerType.uint64.holds n then some n else none
  | _ => none

/-- The parts of a number as doubles; integers must fit a machine word. -/
def doubles? : Value → Option (Number.Binary × Number.Binary)
  | .float x => some (x, .ofInt 0)
  | .fixedFloat _ x => some (x.convert Number.double, .ofInt 0)
  | .complex re im => some (re, im)
  | v => v.word?.map fun n => (.ofInt n, .ofInt 0)

/-- Whether a timestamp without an offset is a counted moment, apart from what lies below
nanoseconds. A year without four digits cannot be compared with one. -/
def sameInstant (t : Tick) (s : Timestamp) : Except Error Bool :=
  match t, t.timestamp? with
  | .missing, _ => .ok false
  | .counted .., none => .error (.fault .badValue)
  | .counted .., some u => .ok (s.moment.offset.isNone && u.count == s.count)

/-- Equality of a counted moment with a scalar. -/
def sameTick (t : Tick) (w : Value) : Except Error Bool :=
  match w with
  | .fixedDate u =>
    match t.same? u with
    | some b => .ok b
    | none => .error (.fault .overflow)
  | .timestamp s => sameInstant t s
  | .notATime | .foreign .. => .ok false
  | w => if w.doubles?.isSome then .ok false else (ofTick t).sameScalar w

/-- Equality of two elements: integers exactly, other numbers as doubles. -/
def sameElement (v w : Value) : Except Error Bool :=
  match v, w with
  | .fixedDate t, w => sameTick t w
  | v, .fixedDate t => sameTick t v
  | v, w =>
    match v.word?, w.word? with
    | some a, some b => .ok (a == b)
    | _, _ =>
      match v.doubles?, w.doubles? with
      | some (a, b), some (c, d) => .ok (a.exact.same c.exact && b.exact.same d.exact)
      | _, _ => v.sameScalar w

/-- The floating-point number of an element, and its type. -/
def float? : Value → Option (FloatType × Number.Binary)
  | .float x => some (.float64, x)
  | .fixedFloat type x => some (type, x)
  | _ => none

/-- Whether the size of a finite number is less than a bound; others count as small. -/
def isWithin (bound : Number.Binary) : Number.Binary → Bool
  | .finite _ m unit => (Number.Binary.finite false m unit).exact.less bound.exact
  | _ => true

/-- The narrowest type, up to the one it has, whose range takes in a number. -/
def leastType (type : FloatType) (x : Number.Binary) : FloatType :=
  if isWithin (.ofInt 65000) x then .float16
  else if isWithin (.ofDecimal Number.double false 34 37) x && type = .float64 then .float32
  else type

/-- A single element that is compared with an array. A floating-point number takes the type of the
array, or the narrowest type with its range if that is wider. -/
def giveWay (element single : Value) : Value :=
  match element.float?, single.float? with
  | some (type, _), some (type', x) =>
    let common := type.wider (leastType type' x)
    .fixedFloat common (x.convert common.format)
  | _, _ => single

/-- Scalars of fixed width, and arrays. -/
def isFixed : Value → Bool
  | .fixedInt .. | .fixedBool _ | .fixedFloat .. | .fixedDate _ | .array _ => true
  | _ => false

/-- Join the elements of items that must all have the same shape. -/
def stackGrids (items : List (List Nat × List Value)) : Except Error (List Nat × List Value) :=
  match items with
  | [] => .ok ([0], [])
  | (shape, _) :: _ =>
    if items.all (·.1 == shape) then .ok (items.length :: shape, items.flatMap Prod.snd)
    else .error (.fault .badValue)

mutual

/-- The shape and the elements of a value that is compared element by element. -/
def grid : Value → Except Error (List Nat × List Value)
  | .array ns =>
    .ok ([ns.length],
      if elementType ns = .float then ns.map fun n => .float (.ofInt n) else ns.map .int)
  | .bytes true data => .ok ([data.length], data.map fun b => .int b.toNat)
  | .record true es => .ok ([es.length], es.map fun e => ofLabel e.1)
  | .frame columns rows => .ok ([rows.length, columns.length], rows.flatten)
  | .list vs | .tuple vs => do stackGrids (← grids vs)
  | v => .ok ([], [v])
termination_by structural v => v

/-- The shapes and the elements of several values. -/
def grids : List Value → Except Error (List (List Nat × List Value))
  | [] => .ok []
  | v :: vs => do
    let g ← v.grid
    return g :: (← grids vs)
termination_by structural vs => vs

end

/-- The counted moment that a value is. -/
def tick? : Value → Option Tick
  | .fixedDate t => some t
  | _ => none

/-- The elements of an array. Counted moments are counted in the finest of their units, which must
not be too far from the others. -/
def settle (vs : List Value) : Except Error (List Value) :=
  match vs.mapM tick? with
  | none => .ok vs
  | some ts =>
    match ts.foldlM Tick.joinUnit none with
    | none => .error (.fault .overflow)
    | some none => .ok vs
    | some (some unit) => .ok (ts.map fun t => .fixedDate (t.countedIn unit))

/-- The common shape of two shapes given from the last dimension on: lengths agree or one is a
single element. -/
def commonShape : List Nat → List Nat → Option (List Nat)
  | [], shape | shape, [] => some shape
  | m :: ms, n :: ns =>
    if m = n || n = 1 then (commonShape ms ns).map (m :: ·)
    else if m = 1 then (commonShape ms ns).map (n :: ·)
    else none

/-- Compare pairs of elements up to the first that cannot be compared. -/
def comparePairs (relation : Value → Value → Except Error Bool) :
    List (Value × Value) → Except Error Unit
  | [] => .ok ()
  | (v, w) :: rest => do
    let _ ← relation v w
    comparePairs relation rest

/-- The pairs of elements that are compared; a single element is paired with all of the others. -/
def elementPairs (vs ws : List Value) : List (Value × Value) :=
  match vs, ws with
  | [v], ws => ws.map (v, ·)
  | vs, [w] => vs.map (·, w)
  | vs, ws => vs.zip ws

/-- Two elements as they are compared, where one of them may stand on its own. -/
def adaptPair (single single' : Bool) (v w : Value) : Value × Value :=
  if single && !single' then (giveWay w v, w)
  else if single' && !single then (v, giveWay v w)
  else (v, w)

/-- Compare element by element, which has an answer for a single element only. -/
def compareElements (relation : Value → Value → Except Error Bool) (v w : Value) : Report Bool := do
  let (shape, vs) ← v.grid
  let vs ← settle vs
  let (shape', ws) ← w.grid
  let ws ← settle ws
  match commonShape shape.reverse shape'.reverse, vs, ws with
  | some common, vs, ws =>
    if common.contains 0 then
      notify .emptyTruth
      return false
    match vs, ws with
    | [v], [w] =>
      let (v, w) := adaptPair shape.isEmpty shape'.isEmpty v w
      relation v w
    | vs, ws => do
      comparePairs relation (elementPairs vs ws)
      throw (.fault .badValue)
  | none, _, _ => throw (.fault .badValue)

/-- Equality of values that are not both lists, tuples, sets, records or foreign. -/
def sameMixed (v w : Value) : Report Bool :=
  match v, w with
  | .foreign "Relvar" .., .frame .. => throw (.fault .badValue)
  | .foreign .., _ => return false
  | .frame .., _ | _, .frame .. => throw (.fault .badValue)
  | .bytes true a, w => return w.memory? == some a
  | .fixedText _, .bytes true b => return v.memory? == some b
  | .null, .array _ | .array _, .null => compareElements sameElement v w
  | .null, _ | _, .null => return v.sameThing w
  | .decimal _, .fixedInt .. => throw (.fault .wrongType)
  | v, w => if v.isFixed || w.isFixed then compareElements sameElement v w else v.sameScalar w

/-- How a value answers when it is compared with another one, which may be asked first. -/
abbrev Comparer := Bool → Value → Report Bool

/-- Whether each member of one set, given by digest and comparer, is in another one. The member that
is there is asked first. -/
def membersWithin (members : List (Report Digest × Comparer)) (ws : List Value) : Report Bool :=
  members.allM fun (digest, compare) => do
    let d ← digest
    ws.anyM fun w => do if d.same (← w.digest) then compare true w else return false

/-- Whether each member of a set is in another one, which is given by digests and comparers. -/
def membersCover (members : List (Report Digest × Comparer)) (ws : List Value) : Report Bool :=
  ws.allM fun w => do
    let d ← w.digest
    members.anyM fun (digest, compare) => do
      if d.same (← digest) then compare false w else return false

/-- Whether each entry of one record, given by its comparer, has an equal one in another. -/
def entriesAgree (entries : List (Label × Comparer)) (fs : List (Label × Value)) : Report Bool :=
  entries.allM fun (k, compare) =>
    match fs.lookup k with
    | some w => compare false w
    | none => return false

/-- Whether each entry of a record has an equal one in another, which is given by comparers. -/
def entriesMatch (entries : List (Label × Comparer)) (fs : List (Label × Value)) : Report Bool :=
  fs.allM fun (k, w) =>
    match entries.lookup k with
    | some compare => compare true w
    | none => return false

mutual

/-- Equality of values, where the second one may be asked first. A frozen record answers for a plain
one. -/
def sameIn (swapped : Bool) : Value → Value → Report Bool
  | .list vs, .list ws => if vs.length = ws.length then sameAll swapped vs ws else return false
  | .tuple vs, .tuple ws => sameAll swapped vs ws
  | .set vs, .set ws =>
    if vs.length ≠ ws.length then return false
    else if swapped then membersCover (members vs) ws
    else membersWithin (members vs) ws
  | .record frozen es, .record frozen' fs =>
    if es.length ≠ fs.length then return false
    else if (if swapped then frozen' || !frozen else frozen' && !frozen) then
      entriesMatch (comparers es) fs
    else entriesAgree (comparers es) fs
  | .foreign k _ _ vs _, .foreign l _ _ ws _ =>
    if k = l then sameAll swapped vs ws else return false
  | .notATime, .notATime => return true
  | v, w => if swapped then w.sameMixed v else v.sameMixed w
termination_by structural v => v

/-- Equality of values place by place, up to the first difference. -/
def sameAll (swapped : Bool) : List Value → List Value → Report Bool
  | [], [] => return true
  | v :: vs, w :: ws => do
    if ← v.sameIn swapped w then sameAll swapped vs ws else return false
  | _, _ => return false
termination_by structural vs => vs

/-- The digests and comparers of the members of a set. -/
def members : List Value → List (Report Digest × Comparer)
  | [] => []
  | v :: vs => (v.digest, fun swapped w => v.sameIn swapped w) :: members vs
termination_by structural vs => vs

/-- The comparers of the values of a record. -/
def comparers : List (Label × Value) → List (Label × Comparer)
  | [] => []
  | (k, v) :: rest => (k, fun swapped w => v.sameIn swapped w) :: comparers rest
termination_by structural es => es

end

/-- Equality of values. -/
def same (v w : Value) : Report Bool := v.sameIn false w

/-- Whether each entry has an equal one with the same label in the second list. -/
def entriesWithin (es fs : List (Label × Value)) : Report Bool := entriesAgree (comparers es) fs

/-- Whether a value equals itself. Containers do, even if some of their elements do not. -/
def equalsItself : Value → Report Bool
  | .list _ | .tuple _ | .set _ | .record .. | .foreign .. => return true
  | v => v.same v

/-- Whether each of some values equals the first of them. -/
def sameAsFirst : List Value → Report (List Bool)
  | [] => return []
  | v :: vs => do return (← v.equalsItself) :: (← vs.mapM fun w => w.same v)

end Value
end Relational

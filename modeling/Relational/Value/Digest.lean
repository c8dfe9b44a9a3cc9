import Relational.Report
import Relational.Value.Kind

/-!
# Digests of values

Scalars have digests, and so have tuples and frozen records of values with digests. Containers that
can change have none, except as values of a record, where a list or a set counts as the tuple of its
elements.
-/

namespace Relational

/-- The digest of a label. -/
def Label.digest : Label → Digest
  | .name s => .ofText s
  | .position n => .ofInt n

/-- The bytes that hold a day. -/
def Date.bytes (d : Date) : List UInt8 :=
  [UInt8.ofNat (d.year / 256), UInt8.ofNat (d.year % 256), UInt8.ofNat d.month, UInt8.ofNat d.day]

/-- The bytes that hold a time of day. -/
def ClockTime.bytes (t : ClockTime) : List UInt8 :=
  [UInt8.ofNat t.hour, UInt8.ofNat t.minute, UInt8.ofNat t.second] ++
    (Digest.lowBytes 3 t.microsecond).reverse

/-- The digest of a span given in days and microseconds. -/
def Digest.ofSpan (days microseconds : Int) : Digest :=
  .tuple ((spanParts days microseconds).map .ofInt)

/-- The digest of a time of day with an optional offset, on a day given by its bytes and its
number. -/
def Digest.ofClock (day : List UInt8) (number : Int) (clock : ClockTime) (offset : Option Int) :
    Digest :=
  match offset with
  | none => .ofBytes (day ++ clock.bytes)
  | some z => .ofSpan number ((clock.microseconds : Int) - z * 1000000)

/-- The digest of a moment. -/
def DateTime.digest (t : DateTime) : Digest := .ofClock t.date.bytes t.date.ordinal t.clock t.offset

/-- The digest of a complex number, from those of its parts. -/
def Digest.ofComplex (re im : Number.Binary) : Digest :=
  match re.exact.residue?, im.exact.residue? with
  | some a, some b => .number (Number.Exact.reserve (wrapWord (a + 1000003 * b)))
  | _, _ => .unique

namespace Value

/-- The digest of a value that is no container. -/
def scalarDigest : Value → Digest
  | .null => .word "None"
  | .text s | .fixedText s => .ofText s
  | .bytes _ data => .ofBytes data
  | .date d => .ofBytes d.bytes
  | .datetime t => t.digest
  | .timestamp t => if t.nanosecond = 0 then t.moment.digest else .ofInt t.count
  | .time t => .ofClock [] 0 t.clock t.offset
  | .notATime => .number Tick.missing.word
  | .fixedDate t => .number (Number.Exact.reserve t.word)
  | .foreign _ _ _ _ digest => digest
  | .complex re im => .ofComplex re im
  | v =>
    match v.quantity? with
    | some x => .ofExact x
    | none => .unique

end Value

/-- The digest of a record from those of its values, which are numbers by then. -/
def Digest.ofEntries (keys values : List Digest) : Digest :=
  .tuple [(Digest.tuple keys).reduce, (Digest.tuple (values.map Digest.reduce)).reduce]

/-- The digests of the labels of a record. -/
def labelDigests (entries : List (Label × Value)) : List Digest := entries.map fun e => e.1.digest

mutual

/-- The digest of a value; containers that can change have none. -/
def Value.digest : Value → Report Digest
  | .list _ | .set _ | .array _ | .frame .. | .bytes true _ | .record false _ |
    .decimal (.nan _ true _) => throw (.fault .wrongType)
  | .tuple vs => do return .tuple (← digestAll vs)
  | .record true es => do return .ofEntries (labelDigests es) (← entryDigests es)
  | v => return v.scalarDigest
termination_by structural v => v

/-- The digests of several values, from left to right. -/
def digestAll : List Value → Report (List Digest)
  | [] => return []
  | v :: vs => do
    let d ← v.digest
    return d :: (← digestAll vs)
termination_by structural vs => vs

/-- The digests of the values of a record. Lists and sets count as tuples and records as records;
other containers that can change are left out with a notice. -/
def entryDigests : List (Label × Value) → Report (List Digest)
  | [] => return []
  | (_, .list vs) :: rest | (_, .set vs) :: rest => do
    let ds ← digestAll vs
    return .tuple ds :: (← entryDigests rest)
  | (_, .record _ es) :: rest => do
    let ds ← entryDigests es
    return .ofEntries (labelDigests es) ds :: (← entryDigests rest)
  | (_, .bytes true data) :: rest => do
    notify (.skippedUnhashable (Value.bytes true data).fullKind)
    entryDigests rest
  | (_, .array ns) :: rest => do
    notify (.skippedUnhashable (Value.array ns).fullKind)
    entryDigests rest
  | (_, .frame columns rows) :: rest => do
    notify (.skippedUnhashable (Value.frame columns rows).fullKind)
    entryDigests rest
  | (_, v) :: rest => do
    let d ← v.digest
    return d :: (← entryDigests rest)
termination_by structural es => es

end

/-- The digest of the entries of a record, which depends on their order. -/
def recordDigest (entries : List (Label × Value)) : Report Digest := do
  return .ofEntries (labelDigests entries) (← entryDigests entries)

end Relational

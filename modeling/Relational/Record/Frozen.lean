import Relational.Record

/-!
# Frozen records

A frozen record refuses to set or remove entries. Operations that come down to setting or removing
are refused only when they get that far, so adding nothing and clearing an empty record succeed.
Merging entries in place does not come down to them.
-/

namespace Relational

/-- The operations on a record that would change it. -/
inductive Edit where
  | set (k : Label) (v : Value)
  | remove (k : Label)
  | pop (k : Label)
  | popItem
  | update (items : Value)
  | clear
  | setDefault (k : Label) (v : Value)
  | merge (entries : List (Label × Value))

namespace Value

/-- The elements of a value that has some: those of a list, the characters of a text, the labels of
a record. -/
def elements : Value → Except Error (List Value)
  | .list vs | .tuple vs | .set vs => .ok vs
  | .text s | .fixedText s => .ok (s.toList.map fun c => .text (String.singleton c))
  | .record _ entries => .ok (entries.map fun e => .ofLabel e.1)
  | _ => .error (.fault .wrongType)

/-- The label that a value is. -/
def toLabel : Value → Except Error Label
  | .text s | .fixedText s => .ok (.name s)
  | v =>
    match v.integral? with
    | some n => .ok (.position n)
    | none => .error (.fault .wrongType)

/-- The entry that a pair is. -/
def toEntry (v : Value) : Except Error (Label × Value) := do
  match ← v.elements with
  | [k, w] => return (← k.toLabel, w)
  | _ => throw (.fault .badValue)

/-- What is walked through to fill a record: the entries of a record as pairs, or else elements. -/
def pairs : Value → Except Error (List Value)
  | .record _ entries => .ok (entries.map fun e => .tuple [.ofLabel e.1, e.2])
  | v => v.elements

end Value

namespace Record

/-- The record with the entries of another one or of pairs. -/
def ofValue : Value → Except Error Record
  | .null => .ok .empty
  | v => do return .ofEntries (← (← v.pairs).mapM Value.toEntry)

/-- The value under a label, which must be present. -/
def get (r : Record) (k : Label) : Except Error Value :=
  match r.get? k with
  | some v => .ok v
  | none => .error (.fault .missingKey)

/-- The record with further entries; it is a new one. -/
def union (r : Record) (entries : List (Label × Value)) : Record := r.insertAll entries

/-- The outcome of adding items one by one: the first one is refused. -/
def refuseFirst (items : Value) : Except Error Value := do
  match ← items.pairs with
  | [] => return .null
  | item :: _ =>
    let _ ← item.toEntry
    throw .frozenSet

/-- The outcome of an operation on a frozen record, and the record afterwards. -/
def attempt (r : Record) : Edit → Except Error Value × Record
  | .set _ _ => (.error .frozenSet, r)
  | .remove _ => (.error .frozenRemove, r)
  | .pop k =>
    if r.contains k then (.error .frozenRemove, r) else (.error (.fault .missingKey), r)
  | .popItem =>
    if r.entries.isEmpty then (.error (.fault .missingKey), r) else (.error .frozenRemove, r)
  | .update items => (refuseFirst items, r)
  | .clear => if r.entries.isEmpty then (.ok .null, r) else (.error .frozenRemove, r)
  | .setDefault k _ =>
    match r.get? k with
    | some v => (.ok v, r)
    | none => (.error .frozenSet, r)
  | .merge entries => (.ok .null, r.insertAll entries)

end Record
end Relational

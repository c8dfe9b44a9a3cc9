import Relational.Value.Equality

/-!
# Sets of values

The members of a set are pairwise different; a value without a digest cannot be one. Numbers are
listed by their places in a table: each takes the first free place from the one that the low bits of
its digest name, and a table that is three fifths full is replaced by one of at least four times as
many places as members. Members whose digests are not known as numbers keep the order in which they
came.
-/

namespace Relational

namespace Value

/-- Add a value with its digest to the members of a set, unless it is there. -/
def addMember (members : List (Digest × Value)) (v : Value) : Report (List (Digest × Value)) := do
  let d ← v.digest
  let present ← members.anyM fun m => if m.1.same d then m.2.same v else return false
  return if present then members else members ++ [(d, v)]

end Value

/-- A place of a table of members, which may be free. -/
abbrev Place := Option (Nat × Value)

/-- A place and the nine after it are tried in turn, if the table goes on so far. -/
def freePlace? (table : List Place) (start : Nat) : Option Nat :=
  let tried := if start + 9 < table.length then 10 else 1
  ((List.range tried).map (start + ·)).find? fun i => (table.getD i none).isNone

/-- The place for a digest, where further starting places draw on its higher bits. -/
def placeFor (table : List Place) : Nat → Nat → Nat → Nat
  | 0, _, start => start
  | fuel + 1, bits, start =>
    match freePlace? table start with
    | some i => i
    | none =>
      let bits := bits / 32
      placeFor table fuel bits ((start * 5 + 1 + bits) % table.length)

/-- Put a member into a table. -/
def putMember (table : List Place) (m : Nat × Value) : List Place :=
  table.set (placeFor table (table.length + 16) m.1 (m.1 % table.length)) (some m)

/-- The least power of two times eight that exceeds a number. -/
def tableSize (least : Nat) : Nat → Nat → Nat
  | 0, size => size
  | fuel + 1, size => if size ≤ least then tableSize least fuel (size * 2) else size

/-- Add a member to a table and enlarge it if it is three fifths full. -/
def addPlace (table : List Place) (m : Nat × Value) : List Place :=
  let table := putMember table m
  let members := table.filterMap id
  if members.length * 5 < (table.length - 1) * 3 then table
  else
    let size := tableSize (members.length * 4) 64 8
    members.foldl putMember (List.replicate size none)

/-- A member with the word that its digest is, if it is known. -/
def placed? (m : Digest × Value) : Option (Nat × Value) :=
  m.1.number?.map fun n => ((n % (Digest.wordSize : Int)).toNat, m.2)

/-- The members of a set in the order of their places. -/
def listMembers (members : List (Digest × Value)) : List Value :=
  match members.mapM placed? with
  | some placed => ((placed.foldl addPlace (List.replicate 8 none)).filterMap id).map Prod.snd
  | none => members.map Prod.snd

/-- The set of some values. -/
def Value.ofSet (vs : List Value) : Report Value := do
  return .set (listMembers (← vs.foldlM addMember []))

end Relational

import Relational.Value
import Relational.Error

/-!
# Records

A record maps labels to values, each label once, and keeps the order in which labels first came. A
label that comes again keeps its place and takes the last value.
-/

namespace Relational

/-- The labels of a list of entries. -/
def labels (entries : List (Label × Value)) : List Label := entries.map Prod.fst

/-- Give a label a value: in its place if it is present, at the end otherwise. -/
def putEntry (entries : List (Label × Value)) (k : Label) (v : Value) : List (Label × Value) :=
  if k ∈ labels entries then entries.map fun e => if e.1 = k then (k, v) else e
  else entries ++ [(k, v)]

theorem labels_putEntry (entries : List (Label × Value)) (k : Label) (v : Value) :
    labels (putEntry entries k v) =
      if k ∈ labels entries then labels entries else labels entries ++ [k] := by
  unfold putEntry
  split
  · simp only [labels, List.map_map]
    apply List.map_congr_left
    intro e _
    by_cases h : e.1 = k <;> simp [h]
  · simp [labels]

theorem nodup_labels_putEntry {entries : List (Label × Value)} (h : (labels entries).Nodup)
    (k : Label) (v : Value) : (labels (putEntry entries k v)).Nodup := by
  rw [labels_putEntry]
  split
  · exact h
  · rename_i hk
    refine List.nodup_append.mpr ⟨h, by simp, ?_⟩
    intro a ha b hb
    rw [List.mem_singleton.mp hb]
    rintro rfl
    exact hk ha

/-- Values under pairwise different labels, in order. -/
structure Record where
  entries : List (Label × Value)
  nodup : (labels entries).Nodup

namespace Record

/-- The record without entries. -/
def empty : Record := ⟨[], by simp [labels]⟩

/-- Give a label a value. -/
def insert (r : Record) (k : Label) (v : Value) : Record :=
  ⟨putEntry r.entries k v, nodup_labels_putEntry r.nodup k v⟩

/-- Add entries from left to right. -/
def insertAll (r : Record) (entries : List (Label × Value)) : Record :=
  entries.foldl (fun r e => r.insert e.1 e.2) r

/-- The record with the given entries. -/
def ofEntries (entries : List (Label × Value)) : Record := empty.insertAll entries

/-- The value under a label. -/
def get? (r : Record) (k : Label) : Option Value := r.entries.lookup k

/-- Whether a label has a value. -/
def contains (r : Record) (k : Label) : Bool := (r.get? k).isSome

/-- The number of entries. -/
def size (r : Record) : Nat := r.entries.length

/-- Restrict a record to some labels, in their order; labels without a value are left out. -/
def project (r : Record) (keys : List Label) : Record :=
  ofEntries (keys.filterMap fun k => (r.get? k).map (k, ·))

/-- The value of a record with a single entry. -/
def single (r : Record) : Except Error Value :=
  match r.entries with
  | [(_, v)] => .ok v
  | entries => .error (.notSingleEntry entries.length)

end Record
end Relational

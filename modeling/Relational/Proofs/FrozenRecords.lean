import Mathlib.Data.List.Infix
import Mathlib.Data.List.Nodup
import Mathlib.Data.List.Perm.Subperm
import Relational.Proofs.Hashable
import Relational.Record.Frozen

/-!
# Frozen records

Of the operations that would change a record, a frozen one refuses all but merging. So after any of
them, one by one, it is the record with what was merged, and its labels are still the first ones.

Equal records have the same labels, but not always in the same order, and their digests are those of
the labels and of the values from first to last. If the order is the same all the way down, the
digests are equal. If it is not the same at the top, they differ, unless the digests of two labels
coincide.
-/

namespace Relational

/-! ### Operations on a frozen record -/

/-- The entries that an operation brings into a frozen record. -/
def Edit.merged : Edit → List (Label × Value)
  | .merge entries => entries
  | _ => []

namespace Record

theorem attempt_snd (r : Record) (edit : Edit) : (r.attempt edit).2 = r.insertAll edit.merged := by
  cases edit with
  | pop | popItem | clear | setDefault =>
    rw [attempt]
    split <;> rfl
  | _ => rfl

/-- A frozen record after operations one by one, whether or not they succeed. -/
def attemptAll (r : Record) (edits : List Edit) : Record :=
  edits.foldl (fun r edit => (r.attempt edit).2) r

/-- **Only merging changes a frozen record.** -/
theorem attemptAll_eq (r : Record) (edits : List Edit) :
    r.attemptAll edits = r.insertAll (edits.flatMap Edit.merged) := by
  induction edits generalizing r with
  | nil => rfl
  | cons edit edits ih =>
    have rest : r.attemptAll (edit :: edits) = (r.attempt edit).2.attemptAll edits := rfl
    rw [rest, ih, attempt_snd, List.flatMap_cons, insertAll, insertAll, insertAll, List.foldl_append]

theorem labels_prefix_insertAll (r : Record) (entries : List (Label × Value)) :
    labels r.entries <+: labels (r.insertAll entries).entries := by
  induction entries generalizing r with
  | nil => exact List.prefix_rfl
  | cons e entries ih =>
    have first : labels r.entries <+: labels (r.insert e.1 e.2).entries := by
      rw [insert, labels_putEntry]
      split
      · exact List.prefix_rfl
      · exact List.prefix_append _ _
    exact first.trans (ih _)

/-- A frozen record keeps its labels in their order, and only merging adds labels or gives other
values. -/
theorem attemptAll_keeps (r : Record) (edits : List Edit) :
    labels r.entries <+: labels (r.attemptAll edits).entries ∧
      ((∀ edit ∈ edits, edit.merged = []) → r.attemptAll edits = r) := by
  rw [attemptAll_eq]
  refine ⟨r.labels_prefix_insertAll _, fun none => ?_⟩
  rw [List.flatMap_eq_nil_iff.mpr none]
  rfl

end Record

/-! ### What the digest of a record tells of its labels -/

namespace Digest

theorem tuple_of_mem {ds : List Digest} {d : Digest} (mem : d ∈ ds) (unknown : d.number? = none) :
    tuple ds = .sequence ds := by
  have none : ds.mapM number? = none := by
    induction ds with
    | nil => cases mem
    | cons e es ih =>
      rw [List.mapM_cons]
      rcases List.mem_cons.mp mem with rfl | rest
      · rw [unknown]
        rfl
      · rw [ih rest]
        cases e.number? <;> rfl
  rw [tuple, none]

/-- If the digest of some label is not a known number, the digest of a record tells those of all its
labels. -/
theorem ofEntries_of_mem {keys values : List Digest} {d : Digest} (mem : d ∈ keys)
    (unknown : d.number? = none) :
    ofEntries keys values =
      .sequence [.reduced (.sequence keys), (tuple (values.map reduce)).reduce] := by
  have first : (tuple keys).reduce = .reduced (.sequence keys) := by
    rw [tuple_of_mem mem unknown]
    rfl
  rw [ofEntries, first, tuple_of_mem List.mem_cons_self rfl]

theorem keys_eq_of_ofEntries {keys keys' values values' : List Digest} {d : Digest} (mem : d ∈ keys)
    (mem' : d ∈ keys') (unknown : d.number? = none)
    (same : ofEntries keys values = ofEntries keys' values') : keys = keys' := by
  rw [ofEntries_of_mem mem unknown, ofEntries_of_mem mem' unknown] at same
  have first := (List.cons.inj (Digest.sequence.inj same)).1
  exact Digest.sequence.inj (Digest.reduced.inj first)

theorem number?_ofText {s : String} (h : s ≠ "") : (ofText s).number? = none := by
  have filled : s.toList ≠ [] := mt String.toList_eq_nil_iff.mp h
  obtain ⟨c, cs, hs⟩ := List.exists_cons_of_ne_nil filled
  have wide (n : Nat) : ∃ w, characterWidth n = w + 1 := by
    unfold characterWidth
    split_ifs <;> exact ⟨_, rfl⟩
  obtain ⟨w, hw⟩ := wide ((s.toList.map Char.toNat).foldl max 0)
  rw [ofText, hw, hs]
  rfl

end Digest

/-- The labels of a record are texts, and different ones have different digests. -/
def LabelsApart (es : List (Label × Value)) : Prop :=
  (∀ k ∈ labels es, ∃ s, k = .name s) ∧ (labelDigests es).Nodup

theorem mem_labels_of_lookup {es : List (Label × Value)} {k : Label} {v : Value}
    (h : es.lookup k = some v) : k ∈ labels es := by
  induction es with
  | nil => cases h
  | cons e es ih =>
    rw [List.lookup_cons] at h
    split at h
    · rename_i same
      exact List.mem_cons.mpr (.inl (eq_of_beq same))
    · exact List.mem_cons.mpr (.inr (ih h))

theorem labels_perm_of_equals {frozen frozen' : Bool} {es fs : List (Label × Value)}
    (nodup : (labels es).Nodup) (nodup' : (labels fs).Nodup)
    (h : (Value.record frozen es).Equals (.record frozen' fs)) : (labels es).Perm (labels fs) := by
  obtain ⟨length, lookups⟩ := lookups_of_record h
  have sizes : (labels es).length = (labels fs).length := by simpa [labels] using length
  rcases lookups with lookups | lookups
  · have within : labels es ⊆ labels fs := List.forall_mem_map.mpr fun e he =>
      have ⟨_, found, _⟩ := lookups e he
      mem_labels_of_lookup found
    exact (nodup.subperm within).perm_of_length_le sizes.ge
  · have within : labels fs ⊆ labels es := List.forall_mem_map.mpr fun f hf =>
      have ⟨_, found, _⟩ := lookups f hf
      mem_labels_of_lookup found
    exact ((nodup'.subperm within).perm_of_length_le sizes.le).symm

theorem eq_of_map_eq {α β : Type} {f : α → β} {as bs : List α} (perm : as.Perm bs)
    (nodup : (as.map f).Nodup) (h : as.map f = bs.map f) : as = bs := by
  refine List.ext_getElem perm.length_eq fun i ha hb => ?_
  have images : f as[i] = f bs[i] := by simpa [ha, hb] using congrArg (·[i]?) h
  have mem : bs[i] ∈ as := perm.mem_iff.mpr (List.getElem_mem hb)
  exact List.inj_on_of_nodup_map nodup (List.getElem_mem ha) mem images

/-- Records with the same labels and equal digests list them in the same order. -/
theorem labels_eq_of_digests {es fs : List (Label × Value)} {ds ds' : List Digest}
    (perm : (labels es).Perm (labels fs)) (apart : LabelsApart es)
    (same : Digest.ofEntries (labelDigests es) ds = .ofEntries (labelDigests fs) ds') :
    labels es = labels fs := by
  obtain ⟨named, nodup⟩ := apart
  rw [labelDigests_eq_map] at nodup
  rw [labelDigests_eq_map, labelDigests_eq_map] at same
  by_cases filled : ∃ s, s ≠ "" ∧ Label.name s ∈ labels es
  · obtain ⟨s, ne, mem⟩ := filled
    have keys := Digest.keys_eq_of_ofEntries (List.mem_map_of_mem mem)
      (List.mem_map_of_mem (perm.mem_iff.mp mem)) (Digest.number?_ofText ne) same
    exact eq_of_map_eq perm nodup keys
  · -- Only the empty text is left, so there is nothing to order.
    have empty : ∀ k ∈ labels es, k = .name "" := by
      intro k hk
      obtain ⟨s, rfl⟩ := named k hk
      by_contra ne
      exact filled ⟨s, fun h => ne (congrArg _ h), hk⟩
    have replicated := List.eq_replicate_of_mem empty
    rw [replicated] at perm ⊢
    exact (List.perm_replicate.mp perm.symm).symm

/-! ### The digests of equal records -/

/-- **The digests of equal records depend on the order of their labels.** Both records have digests.
These are equal if the labels are in the same order, inside of the records as well; and if they are
equal, the labels are in the same order, provided that their digests tell them apart. -/
theorem equal_records_digests {P : Value → Prop} (lawful : KeepsContract P) (r q : Record)
    {before after : List Notice} (hr : HaveDigests P r.entries) (hq : HaveDigests P q.entries)
    (equal : ((Value.record true r.entries).same (.record true q.entries)).Returns before true
      after) :
    ∃ d e, (recordDigest r.entries).Gives d ∧ (recordDigest q.entries).Gives e ∧
      (labels r.entries = labels q.entries → EntriesInOrder r.entries q.entries →
        d.same e = true) ∧
      (LabelsApart r.entries → d.same e = true → labels r.entries = labels q.entries) := by
  have equals : (Value.record true r.entries).Equals (.record true q.entries) :=
    ⟨false, before, after, equal⟩
  have record (s : Record) (hs : HaveDigests P s.entries) :
      (Value.record true s.entries).IsEntry P := ⟨s.nodup, hs⟩
  obtain ⟨ds, hds⟩ := exists_entryDigests hr fun e _ => exists_entryDigest lawful e.2
  obtain ⟨es, hes⟩ := exists_entryDigests hq fun e _ => exists_entryDigest lawful e.2
  have hd := gives_recordDigest hds
  have he := gives_recordDigest hes
  refine ⟨_, _, hd, he, fun order values => ?_, fun apart same => ?_⟩
  · obtain ⟨d, known, hd', he'⟩ := agree_of_equals lawful _ _ (record r hr) (record q hq)
      ⟨order, values⟩ equals
    rw [hd.unique hd', he.unique he']
    exact known
  · have perm := labels_perm_of_equals r.nodup q.nodup equals
    exact labels_eq_of_digests perm apart (Digest.eq_of_same same)

namespace Sample

/-- Two entries. -/
def listed : Record := ⟨[(.name "a", .int 1), (.name "b", .int 2)], by decide⟩

/-- The same entries, the other way around. -/
def turned : Record := ⟨[(.name "b", .int 2), (.name "a", .int 1)], by decide⟩

/-- Equal records with different digests. -/
theorem listed_turned :
    ((Value.record true listed.entries).same (.record true turned.entries)).Returns [] true [] ∧
      ∃ d e, (recordDigest listed.entries).Gives d ∧ (recordDigest turned.entries).Gives e ∧
        d.same e = false :=
  ⟨rfl, _, _, fun _ => rfl, fun _ => rfl, by decide⟩

theorem labelsApart_listed : LabelsApart listed.entries := by
  have ne : (Label.name "a").digest ≠ (Label.name "b").digest := by
    intro h
    have same : (Label.name "a").digest.same (Label.name "b").digest = true :=
      h ▸ isKnown_label (.name "a")
    exact absurd same (by decide)
  constructor
  · exact List.forall_mem_cons.mpr ⟨⟨"a", rfl⟩, List.forall_mem_singleton.mpr ⟨"b", rfl⟩⟩
  · exact List.nodup_cons.mpr ⟨fun mem => ne (List.mem_singleton.mp mem), List.nodup_singleton _⟩

/-- A number and a list, with a record inside. -/
def layered : Record :=
  ⟨[(.name "a", .int 1), (.name "b", .list [.text "x", .record true [(.name "c", .int 2)]])],
    by decide⟩

/-- The same with other kinds of numbers. -/
def converted : Record :=
  ⟨[(.name "a", .bool true),
    (.name "b", .list [.text "x", .record true [(.name "c", .fraction 2 1)]])], by decide⟩

/-- Equal digests in the same order, and different ones otherwise. -/
theorem equal_records_digests_sample :
    (∃ d e, (recordDigest layered.entries).Gives d ∧ (recordDigest converted.entries).Gives e ∧
      d.same e = true) ∧
    ∃ d e, (recordDigest listed.entries).Gives d ∧ (recordDigest turned.entries).Gives e ∧
      d.same e ≠ true := by
  constructor
  · have equal : ((Value.record true layered.entries).same (.record true converted.entries)).Returns
        [] true [] := rfl
    have order : EntriesInOrder layered.entries converted.entries :=
      ⟨trivial, ⟨trivial, ⟨rfl, trivial, trivial⟩, trivial⟩, trivial⟩
    obtain ⟨d, e, hd, he, same, -⟩ := equal_records_digests keepsContract_isPlain layered converted
      ⟨rfl, ⟨rfl, ⟨by decide, rfl, trivial⟩, trivial⟩, trivial⟩
      ⟨rfl, ⟨rfl, ⟨by decide, rfl, trivial⟩, trivial⟩, trivial⟩ equal
    exact ⟨d, e, hd, he, same rfl order⟩
  · have equal : ((Value.record true listed.entries).same (.record true turned.entries)).Returns
        [] true [] := rfl
    obtain ⟨d, e, hd, he, -, labels⟩ := equal_records_digests keepsContract_isPlain listed turned
      ⟨rfl, rfl, trivial⟩ ⟨rfl, rfl, trivial⟩ equal
    exact ⟨d, e, hd, he, fun same => absurd (labels labelsApart_listed same) (by decide)⟩

end Sample

end Relational

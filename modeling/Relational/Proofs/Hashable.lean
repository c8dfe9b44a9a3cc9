import Mathlib.Data.List.Forall2
import Relational.Proofs.Scalars
import Relational.Record.Equality

/-!
# Equal values in the same order have equal digests

Scalars have digests, and so have tuples and frozen records of values with digests; as values of a
record, lists, sets and all records have them too. Equality disregards the order of the labels of a
record and of the members of a set, but digests are made from first to last. So equal values have
equal digests if the records and sets in them are in the same order, at any depth.

Of the scalars, only the contract of hashing is used: equal ones have equal digests. Plain scalars
keep it.
-/

namespace Relational

/-- A report gives a value and no notice. -/
def Report.Gives {α : Type} (m : Report α) (a : α) : Prop := ∀ notices, m.Returns notices a notices

section Gives

variable {α β : Type}

theorem gives_pure (a : α) : (pure a : Report α).Gives a := fun _ => report_pure.mpr ⟨rfl, rfl⟩

theorem Report.Gives.bind {m : Report α} {f : α → Report β} {a : α} {b : β} (hm : m.Gives a)
    (hf : (f a).Gives b) : (m >>= f).Gives b :=
  fun notices => report_bind.mpr ⟨a, notices, hm notices, hf notices⟩

theorem Report.Gives.unique {m : Report α} {a b : α} (ha : m.Gives a) (hb : m.Gives b) : a = b := by
  have same : ((Except.ok a, []) : Except Error α × List Notice) = (.ok b, []) :=
    (ha []).symm.trans (hb [])
  exact Except.ok.inj (Prod.mk.inj same).1

end Gives

/-! ### Scalars that keep the contract of hashing -/

/-- Two values are equal if the one that is asked first says so. -/
def Value.Equals (v w : Value) : Prop :=
  ∃ swapped before after, (v.sameIn swapped w).Returns before true after

/-- Some scalars keep the contract of hashing: each of them has a digest, equal ones have equal
digests, and none is equal to a container. -/
structure KeepsContract (P : Value → Prop) : Prop where
  digest : ∀ v, P v → ∃ d, v.digest.Gives d
  same : ∀ v w d e, P v → P w → v.Equals w → v.digest.Gives d → w.digest.Gives e → d.same e = true
  apart : ∀ v w, P v → w.isContainer = true → ¬ v.Equals w ∧ ¬ w.Equals v

section Plain

variable {v w : Value} {swapped : Bool} {before after : List Notice}

/-- What equality of ordinary values comes down to: to what containers of one kind hold, or else to
the exact values, text or moments of scalars. -/
theorem sameIn_cases (hv : v.isOrdinary = true) (hw : w.isOrdinary = true)
    (h : (v.sameIn swapped w).Returns before true after) :
    (∃ vs ws, v = .list vs ∧ w = .list ws) ∨ (∃ vs ws, v = .tuple vs ∧ w = .tuple ws) ∨
      (∃ vs ws, v = .set vs ∧ w = .set ws) ∨
      (∃ b es c fs, v = .record b es ∧ w = .record c fs) ∨ (v = .notATime ∧ w = .notATime) ∨
      v.sameScalar w = .ok true ∨ w.sameScalar v = .ok true := by
  rw [Value.sameIn.eq_def] at h
  split at h
  case h_1 vs ws => exact .inl ⟨vs, ws, rfl, rfl⟩
  case h_2 vs ws => exact .inr (.inl ⟨vs, ws, rfl, rfl⟩)
  case h_3 vs ws => exact .inr (.inr (.inl ⟨vs, ws, rfl, rfl⟩))
  case h_4 b es c fs => exact .inr (.inr (.inr (.inl ⟨b, es, c, fs, rfl, rfl⟩)))
  case h_5 => cases hv
  case h_6 => exact .inr (.inr (.inr (.inr (.inl ⟨rfl, rfl⟩))))
  case h_7 =>
    refine .inr (.inr (.inr (.inr (.inr ?_))))
    split at h
    · exact .inr (Value.sameScalar_of_sameMixed hw hv h)
    · exact .inl (Value.sameScalar_of_sameMixed hv hw h)

theorem isOrdinary_of_isPlain (h : v.isPlain = true) : v.isOrdinary = true :=
  Bool.or_eq_true_iff.mpr (.inl h)

theorem isOrdinary_of_isContainer (h : v.isContainer = true) : v.isOrdinary = true :=
  Bool.or_eq_true_iff.mpr (.inr h)

theorem isContainer_of_isPlain (h : v.isPlain = true) : v.isContainer = false := by
  cases v with
  | list | tuple | set | record => cases h
  | _ => rfl

/-- Equality with a plain scalar comes down to exact values, text or moments. -/
theorem sameScalar_of_isPlain (hv : v.isPlain = true ∨ w.isPlain = true) (hv' : v.isOrdinary = true)
    (hw' : w.isOrdinary = true) (h : v.Equals w) :
    (v = .notATime ∧ w = .notATime) ∨ v.sameScalar w = .ok true ∨ w.sameScalar v = .ok true := by
  obtain ⟨swapped, before, after, h⟩ := h
  have container (hc : v.isContainer = true ∧ w.isContainer = true) : False := by
    rcases hv with plain | plain
    · exact Bool.false_ne_true ((isContainer_of_isPlain plain).symm.trans hc.1)
    · exact Bool.false_ne_true ((isContainer_of_isPlain plain).symm.trans hc.2)
  rcases sameIn_cases hv' hw' h with ⟨_, _, rfl, rfl⟩ | ⟨_, _, rfl, rfl⟩ | ⟨_, _, rfl, rfl⟩ |
    ⟨_, _, _, _, rfl, rfl⟩ | scalar
  · exact (container ⟨rfl, rfl⟩).elim
  · exact (container ⟨rfl, rfl⟩).elim
  · exact (container ⟨rfl, rfl⟩).elim
  · exact (container ⟨rfl, rfl⟩).elim
  · exact scalar

theorem Digest.same_symm {d e : Digest} (h : d.same e = true) : e.same d = true := by
  obtain ⟨rfl, known⟩ := Digest.same_iff.mp h
  exact known

/-- **Plain scalars keep the contract of hashing.** -/
theorem keepsContract_isPlain : KeepsContract fun v => v.isPlain = true where
  digest v hv := ⟨v.scalarDigest, Value.digest_of_isPlain hv ▸ gives_pure _⟩
  same v w d e hv hw equal hd he := by
    have digest := hd.unique (Value.digest_of_isPlain hv ▸ gives_pure v.scalarDigest)
    have digest' := he.unique (Value.digest_of_isPlain hw ▸ gives_pure w.scalarDigest)
    rw [digest, digest']
    rcases sameScalar_of_isPlain (.inl hv) (isOrdinary_of_isPlain hv) (isOrdinary_of_isPlain hw)
      equal with ⟨rfl, rfl⟩ | same | same
    · exact Digest.isKnown_number _
    · exact Value.scalarDigest_same hv hw same
    · exact Digest.same_symm (Value.scalarDigest_same hw hv same)
  apart v w hv hw := by
    have never {x y : Value} (hx : x.isPlain = true ∨ y.isPlain = true)
        (hx' : x.isOrdinary = true) (hy' : y.isOrdinary = true)
        (hc : x.isContainer = true ∨ y.isContainer = true) : ¬ x.Equals y := by
      intro equal
      rcases sameScalar_of_isPlain hx hx' hy' equal with ⟨rfl, rfl⟩ | same | same
      · rcases hc with hc | hc <;> cases hc
      · rw [Value.sameScalar_of_isContainer hc] at same
        cases same
      · rw [Value.sameScalar_of_isContainer hc.symm] at same
        cases same
    exact ⟨never (.inl hv) (isOrdinary_of_isPlain hv) (isOrdinary_of_isContainer hw) (.inr hw),
      never (.inr hv) (isOrdinary_of_isContainer hw) (isOrdinary_of_isPlain hv) (.inl hw)⟩

end Plain

/-! ### Values by what they hold -/

section Induction

variable {motive : Value → Prop} (scalar : ∀ v, v.isContainer = false → motive v)
  (list : ∀ vs, (∀ v ∈ vs, motive v) → motive (.list vs))
  (tuple : ∀ vs, (∀ v ∈ vs, motive v) → motive (.tuple vs))
  (set : ∀ vs, (∀ v ∈ vs, motive v) → motive (.set vs))
  (record : ∀ frozen es, (∀ e ∈ es, motive e.2) → motive (.record frozen es))

include scalar list tuple set record

set_option linter.unusedSectionVars false in
mutual

/-- Induction over values: a container follows from what it holds, and any other value stands for
itself. -/
theorem Value.containerInduction (v : Value) : motive v :=
  match v with
  | .list vs => list vs (Value.allInduction vs)
  | .tuple vs => tuple vs (Value.allInduction vs)
  | .set vs => set vs (Value.allInduction vs)
  | .record frozen es => record frozen es (Value.entryInduction es)
  | .null | .bool _ | .int _ | .float _ | .decimal _ | .fraction .. | .complex .. | .text _ |
    .bytes .. | .date _ | .datetime _ | .time _ | .timestamp _ | .notATime | .fixedInt .. |
    .fixedBool _ | .fixedFloat .. | .fixedText _ | .fixedDate _ | .array _ | .frame .. |
    .foreign .. => scalar _ rfl
termination_by structural v

theorem Value.allInduction (vs : List Value) : ∀ v ∈ vs, motive v :=
  match vs with
  | [] => List.forall_mem_nil _
  | v :: vs => List.forall_mem_cons.mpr ⟨Value.containerInduction v, Value.allInduction vs⟩
termination_by structural vs

theorem Value.entryInduction (es : List (Label × Value)) : ∀ e ∈ es, motive e.2 :=
  match es with
  | [] => List.forall_mem_nil _
  | (_, v) :: rest =>
    List.forall_mem_cons.mpr ⟨Value.containerInduction v, Value.entryInduction rest⟩
termination_by structural es

end

end Induction

/-! ### Hashable values -/

section Hashable

variable (P : Value → Prop)

mutual

/-- Values with a digest: given scalars, tuples of such values, and frozen records. -/
def Value.IsHashable : Value → Prop
  | .tuple vs => AreHashable vs
  | .record true es => (labels es).Nodup ∧ HaveDigests es
  | .list _ | .set _ | .record false _ => False
  | v => P v
termination_by structural v => v

/-- All values of a list have digests. -/
def AreHashable : List Value → Prop
  | [] => True
  | v :: vs => v.IsHashable ∧ AreHashable vs
termination_by structural vs => vs

/-- The values of a record have digests there. Lists and sets count as tuples, and all records as
frozen ones. -/
def HaveDigests : List (Label × Value) → Prop
  | [] => True
  | (_, .list vs) :: rest | (_, .set vs) :: rest => AreHashable vs ∧ HaveDigests rest
  | (_, .record _ es) :: rest => ((labels es).Nodup ∧ HaveDigests es) ∧ HaveDigests rest
  | (_, v) :: rest => v.IsHashable ∧ HaveDigests rest
termination_by structural es => es

end

/-- A value has a digest as a value of a record. -/
def Value.IsEntry : Value → Prop
  | .list vs | .set vs => AreHashable P vs
  | .record _ es => (labels es).Nodup ∧ HaveDigests P es
  | v => v.IsHashable P

theorem haveDigests_cons {k : Label} {v : Value} {rest : List (Label × Value)} :
    HaveDigests P ((k, v) :: rest) ↔ v.IsEntry P ∧ HaveDigests P rest := by
  cases v <;> rfl

theorem isEntry_of_scalar {v : Value} (h : v.isContainer = false) : v.IsEntry P = P v := by
  cases v with
  | list | tuple | set | record => cases h
  | _ => rfl

end Hashable

/-- The digest of a value as a value of a record. -/
def Value.entryDigest : Value → Report Digest
  | .list vs | .set vs => do return .tuple (← digestAll vs)
  | .record _ es => recordDigest es
  | v => v.digest

theorem entryDigest_of_scalar {v : Value} (h : v.isContainer = false) :
    v.entryDigest = v.digest := by
  cases v with
  | list | tuple | set | record => cases h
  | _ => rfl

/-- A value with a digest of its own has the same one as a value of a record. -/
theorem isEntry_of_isHashable {P : Value → Prop} {v : Value} (h : v.IsHashable P) :
    v.IsEntry P ∧ v.entryDigest = v.digest := by
  cases v with
  | list | set => exact h.elim
  | record frozen es =>
    cases frozen with
    | true => exact ⟨h, rfl⟩
    | false => exact h.elim
  | _ => exact ⟨h, rfl⟩

section Gives

variable {ds : List Digest}

theorem gives_digestAll_cons {v : Value} {vs : List Value} {d : Digest} (hd : v.digest.Gives d)
    (hds : (digestAll vs).Gives ds) : (digestAll (v :: vs)).Gives (d :: ds) :=
  hd.bind (hds.bind (gives_pure _))

theorem gives_tuple {vs : List Value} (h : (digestAll vs).Gives ds) :
    (do return Digest.tuple (← digestAll vs) : Report Digest).Gives (.tuple ds) :=
  h.bind (gives_pure _)

theorem gives_recordDigest {es : List (Label × Value)} (h : (entryDigests es).Gives ds) :
    (recordDigest es).Gives (.ofEntries (labelDigests es) ds) :=
  h.bind (gives_pure _)

theorem gives_entryDigests_cons {k : Label} {v : Value} {rest : List (Label × Value)} {d : Digest}
    (hd : v.entryDigest.Gives d) (hds : (entryDigests rest).Gives ds) :
    (entryDigests ((k, v) :: rest)).Gives (d :: ds) := by
  have first : (do let d ← v.entryDigest; return d :: (← entryDigests rest)).Gives (d :: ds) :=
    hd.bind (hds.bind (gives_pure _))
  -- Values that are left out have no digest.
  have throws (h : (throw (.fault .wrongType) : Report Digest).Gives d) : False :=
    not_report_throw (h [])
  cases v with
  | list vs | set vs => simpa [Value.entryDigest, entryDigests] using first
  | record frozen es => simpa [Value.entryDigest, recordDigest, entryDigests] using first
  | bytes growable data =>
    cases growable with
    | true => exact (throws hd).elim
    | false => exact first
  | array ns => exact (throws hd).elim
  | frame columns rows => exact (throws hd).elim
  | _ => exact first

end Gives

section Exists

variable {P : Value → Prop}

theorem exists_digestAll {vs : List Value} (h : AreHashable P vs)
    (ih : ∀ v ∈ vs, v.IsEntry P → ∃ d, v.entryDigest.Gives d) : ∃ ds, (digestAll vs).Gives ds := by
  induction vs with
  | nil => exact ⟨[], gives_pure _⟩
  | cons v vs rest =>
    obtain ⟨first, others⟩ := List.forall_mem_cons.mp ih
    obtain ⟨entry, digest⟩ := isEntry_of_isHashable h.1
    obtain ⟨d, hd⟩ := first entry
    obtain ⟨ds, hds⟩ := rest h.2 others
    exact ⟨d :: ds, gives_digestAll_cons (digest ▸ hd) hds⟩

theorem exists_entryDigests {es : List (Label × Value)} (h : HaveDigests P es)
    (ih : ∀ e ∈ es, e.2.IsEntry P → ∃ d, e.2.entryDigest.Gives d) :
    ∃ ds, (entryDigests es).Gives ds := by
  induction es with
  | nil => exact ⟨[], gives_pure _⟩
  | cons e es rest =>
    obtain ⟨first, others⟩ := List.forall_mem_cons.mp ih
    obtain ⟨he, hes⟩ := (haveDigests_cons P).mp h
    obtain ⟨d, hd⟩ := first he
    obtain ⟨ds, hds⟩ := rest hes others
    exact ⟨d :: ds, gives_entryDigests_cons hd hds⟩

theorem exists_entryDigest (lawful : KeepsContract P) (v : Value) (h : v.IsEntry P) :
    ∃ d, v.entryDigest.Gives d := by
  induction v using Value.containerInduction with
  | scalar v hv =>
    rw [isEntry_of_scalar P hv] at h
    rw [entryDigest_of_scalar hv]
    exact lawful.digest v h
  | list vs ih | set vs ih | tuple vs ih =>
    obtain ⟨ds, hds⟩ := exists_digestAll h ih
    exact ⟨_, gives_tuple hds⟩
  | record frozen es ih =>
    obtain ⟨ds, hds⟩ := exists_entryDigests h.2 ih
    exact ⟨_, gives_recordDigest hds⟩

end Exists

/-! ### Order -/

mutual

/-- Corresponding records, at any depth, list their labels in the same order, and corresponding sets
have equal members from first to last. -/
def Value.InOrder : Value → Value → Prop
  | .list vs, .list ws | .tuple vs, .tuple ws => AllInOrder vs ws
  | .set vs, .set ws => List.Forall₂ Value.Equals vs ws ∧ AllInOrder vs ws
  | .record _ es, .record _ fs => labels es = labels fs ∧ EntriesInOrder es fs
  | _, _ => True
termination_by structural v => v

/-- The values of two lists are in order, place by place. -/
def AllInOrder : List Value → List Value → Prop
  | v :: vs, w :: ws => v.InOrder w ∧ AllInOrder vs ws
  | _, _ => True
termination_by structural vs => vs

/-- The values of two lists of entries are in order, place by place. -/
def EntriesInOrder : List (Label × Value) → List (Label × Value) → Prop
  | (_, v) :: es, (_, w) :: fs => v.InOrder w ∧ EntriesInOrder es fs
  | _, _ => True
termination_by structural es => es

end

/-! ### Equality of containers -/

section Containers

variable {before after : List Notice} {swapped : Bool}

theorem forall₂_equals_of_sameAll {vs ws : List Value}
    (h : (Value.sameAll swapped vs ws).Returns before true after) :
    List.Forall₂ Value.Equals vs ws := by
  induction vs generalizing ws before with
  | nil =>
    cases ws with
    | nil => exact .nil
    | cons w ws => exact absurd h not_report_false
  | cons v vs ih =>
    cases ws with
    | nil => exact absurd h not_report_false
    | cons w ws =>
      obtain ⟨mid, first, rest⟩ := report_andThen.mp h
      exact .cons ⟨swapped, before, mid, first⟩ (ih rest)

theorem returns_of_allM {α : Type} {f : α → Report Bool} {as : List α}
    (h : (as.allM f).Returns before true after) :
    ∀ a ∈ as, ∃ before after, (f a).Returns before true after := by
  induction as generalizing before with
  | nil => exact List.forall_mem_nil _
  | cons a as ih =>
    rw [List.allM] at h
    obtain ⟨b, mid, first, rest⟩ := report_bind.mp h
    cases b with
    | false => exact absurd rest not_report_false
    | true => exact List.forall_mem_cons.mpr ⟨⟨_, _, first⟩, ih rest⟩

theorem comparers_eq_map (es : List (Label × Value)) :
    Value.comparers es = es.map fun e => (e.1, fun swapped w => e.2.sameIn swapped w) := by
  induction es with
  | nil => rfl
  | cons e es ih => rw [Value.comparers, ih, List.map_cons]

/-- If each entry of a record has an equal one in another, it is found under its label. -/
theorem exists_lookup_of_entriesAgree {es fs : List (Label × Value)}
    (h : (Value.entriesAgree (Value.comparers es) fs).Returns before true after) :
    ∀ e ∈ es, ∃ w, fs.lookup e.1 = some w ∧ e.2.Equals w := by
  intro e he
  have mem : (e.1, fun swapped w => e.2.sameIn swapped w) ∈ Value.comparers es := by
    rw [comparers_eq_map]
    exact List.mem_map_of_mem he
  obtain ⟨before, after, found⟩ := returns_of_allM h _ mem
  dsimp only at found
  split at found
  · rename_i w hw
    exact ⟨w, hw, false, before, after, found⟩
  · exact absurd found not_report_false

theorem lookup_comparers (es : List (Label × Value)) (k : Label) :
    (Value.comparers es).lookup k =
      (es.lookup k).map fun v => fun swapped w => v.sameIn swapped w := by
  induction es with
  | nil => rfl
  | cons e es ih =>
    rw [Value.comparers, List.lookup_cons, List.lookup_cons]
    split <;> simp_all

theorem exists_lookup_of_entriesMatch {es fs : List (Label × Value)}
    (h : (Value.entriesMatch (Value.comparers es) fs).Returns before true after) :
    ∀ f ∈ fs, ∃ v, es.lookup f.1 = some v ∧ v.Equals f.2 := by
  intro f hf
  obtain ⟨before, after, found⟩ := returns_of_allM h _ hf
  dsimp only at found
  split at found
  · rename_i compare hc
    rw [lookup_comparers] at hc
    obtain ⟨v, hv, rfl⟩ := Option.map_eq_some_iff.mp hc
    exact ⟨v, hv, true, before, after, found⟩
  · exact absurd found not_report_false

theorem lookup_of_mem {es : List (Label × Value)} (nodup : (labels es).Nodup) {k : Label} {v : Value}
    (h : (k, v) ∈ es) : es.lookup k = some v := by
  induction es with
  | nil => cases h
  | cons e es ih =>
    obtain ⟨fresh, nodup⟩ := List.nodup_cons.mp nodup
    rw [List.lookup_cons]
    rcases List.mem_cons.mp h with rfl | rest
    · rw [beq_self_eq_true]
    · have other : (k == e.1) = false := beq_eq_false_iff_ne.mpr fun same =>
        fresh (List.mem_map.mpr ⟨(k, v), rest, same⟩)
      rw [other]
      exact ih nodup rest

/-- Equal records have as many entries, and each entry of one of them has an equal one in the
other, found under its label. -/
theorem lookups_of_record {frozen frozen' : Bool} {es fs : List (Label × Value)}
    (h : (Value.record frozen es).Equals (.record frozen' fs)) :
    es.length = fs.length ∧ ((∀ e ∈ es, ∃ w, fs.lookup e.1 = some w ∧ e.2.Equals w) ∨
      ∀ f ∈ fs, ∃ v, es.lookup f.1 = some v ∧ v.Equals f.2) := by
  obtain ⟨swapped, before, after, h⟩ := h
  rw [Value.sameIn.eq_def] at h
  dsimp only at h
  split at h
  · exact absurd h not_report_false
  · rename_i length
    refine ⟨not_not.mp length, ?_⟩
    -- Which of the two is walked through depends on their kinds and on which one is asked first.
    generalize (if swapped = true then frozen' || !frozen else frozen' && !frozen) = matching at h
    cases matching with
    | true => exact .inr (exists_lookup_of_entriesMatch h)
    | false => exact .inl (exists_lookup_of_entriesAgree h)

/-- Equal records with the same labels in the same order have equal values from first to last. -/
theorem forall₂_equals_of_record {frozen frozen' : Bool} {es fs : List (Label × Value)}
    (nodup : (labels es).Nodup) (same : labels es = labels fs)
    (h : (Value.record frozen es).Equals (.record frozen' fs)) :
    List.Forall₂ (fun e f => e.2.Equals f.2) es fs := by
  have keys : List.Forall₂ (fun e f : Label × Value => e.1 = f.1) es fs := by
    rw [← List.forall₂_map_right_iff, ← List.forall₂_map_left_iff, List.forall₂_eq_eq_eq]
    exact same
  refine List.forall₂_iff_zip.mpr ⟨keys.length_eq, fun {e f} mem => ?_⟩
  have key : e.1 = f.1 := List.forall₂_zip keys mem
  obtain ⟨he, hf⟩ := List.of_mem_zip mem
  rcases (lookups_of_record h).2 with lookups | lookups
  · obtain ⟨w, found, equal⟩ := lookups e he
    rw [key, lookup_of_mem (same ▸ nodup) hf] at found
    cases found
    exact equal
  · obtain ⟨v, found, equal⟩ := lookups f hf
    rw [← key, lookup_of_mem nodup he] at found
    cases found
    exact equal

end Containers

/-! ### Agreement -/

/-- Two computations give the same digest, which is equal to itself. -/
def Agree (m n : Report Digest) : Prop := ∃ d, d.IsKnown ∧ m.Gives d ∧ n.Gives d

/-- Two computations give the same digests, which are equal to themselves. -/
def AgreeAll (m n : Report (List Digest)) : Prop :=
  ∃ ds, (∀ d ∈ ds, d.IsKnown) ∧ m.Gives ds ∧ n.Gives ds

theorem AgreeAll.tuple {vs ws : List Value} (h : AgreeAll (digestAll vs) (digestAll ws)) :
    Agree (do return Digest.tuple (← digestAll vs)) (do return Digest.tuple (← digestAll ws)) := by
  obtain ⟨ds, known, hv, hw⟩ := h
  exact ⟨.tuple ds, Digest.isKnown_tuple known, gives_tuple hv, gives_tuple hw⟩

theorem isKnown_ofEntries (es : List (Label × Value)) {ds : List Digest}
    (known : ∀ d ∈ ds, d.IsKnown) : (Digest.ofEntries (labelDigests es) ds).IsKnown := by
  have keys : ∀ d ∈ labelDigests es, d.IsKnown :=
    List.forall_mem_map.mpr fun e _ => isKnown_label e.1
  have values : ∀ d ∈ ds.map Digest.reduce, d.IsKnown :=
    List.forall_mem_map.mpr fun d hd => Digest.isKnown_reduce (known d hd)
  refine Digest.isKnown_tuple ?_
  simp only [List.forall_mem_cons]
  exact ⟨Digest.isKnown_reduce (Digest.isKnown_tuple keys),
    Digest.isKnown_reduce (Digest.isKnown_tuple values), List.forall_mem_nil _⟩

theorem labelDigests_eq_map (es : List (Label × Value)) :
    labelDigests es = (labels es).map Label.digest := by
  rw [labelDigests, labels, List.map_map]
  rfl

theorem AgreeAll.record {es fs : List (Label × Value)}
    (h : AgreeAll (entryDigests es) (entryDigests fs)) (same : labels es = labels fs) :
    Agree (recordDigest es) (recordDigest fs) := by
  obtain ⟨ds, known, he, hf⟩ := h
  refine ⟨.ofEntries (labelDigests es) ds, isKnown_ofEntries es known, gives_recordDigest he, ?_⟩
  rw [labelDigests_eq_map, same, ← labelDigests_eq_map]
  exact gives_recordDigest hf

section Agreement

variable {P : Value → Prop}

theorem agreeAll_of_equals {vs ws : List Value} (equal : List.Forall₂ Value.Equals vs ws)
    (hv : AreHashable P vs) (hw : AreHashable P ws) (order : AllInOrder vs ws)
    (ih : ∀ v ∈ vs, ∀ w, v.IsEntry P → w.IsEntry P → v.InOrder w → v.Equals w →
      Agree v.entryDigest w.entryDigest) : AgreeAll (digestAll vs) (digestAll ws) := by
  induction equal with
  | nil => exact ⟨[], List.forall_mem_nil _, gives_pure _, gives_pure _⟩
  | cons first _ rest =>
    obtain ⟨this, others⟩ := List.forall_mem_cons.mp ih
    obtain ⟨entry, digest⟩ := isEntry_of_isHashable hv.1
    obtain ⟨entry', digest'⟩ := isEntry_of_isHashable hw.1
    obtain ⟨d, known, hd, hd'⟩ := this _ entry entry' order.1 first
    obtain ⟨ds, knowns, hds, hds'⟩ := rest hv.2 hw.2 order.2 others
    exact ⟨d :: ds, List.forall_mem_cons.mpr ⟨known, knowns⟩,
      gives_digestAll_cons (digest ▸ hd) hds, gives_digestAll_cons (digest' ▸ hd') hds'⟩

theorem agreeEntries_of_equals {es fs : List (Label × Value)}
    (equal : List.Forall₂ (fun e f => e.2.Equals f.2) es fs) (he : HaveDigests P es)
    (hf : HaveDigests P fs) (order : EntriesInOrder es fs)
    (ih : ∀ e ∈ es, ∀ w, e.2.IsEntry P → w.IsEntry P → e.2.InOrder w → e.2.Equals w →
      Agree e.2.entryDigest w.entryDigest) : AgreeAll (entryDigests es) (entryDigests fs) := by
  induction equal with
  | nil => exact ⟨[], List.forall_mem_nil _, gives_pure _, gives_pure _⟩
  | cons first _ rest =>
    obtain ⟨this, others⟩ := List.forall_mem_cons.mp ih
    obtain ⟨hv, he⟩ := (haveDigests_cons P).mp he
    obtain ⟨hw, hf⟩ := (haveDigests_cons P).mp hf
    obtain ⟨d, known, hd, hd'⟩ := this _ hv hw order.1 first
    obtain ⟨ds, knowns, hds, hds'⟩ := rest he hf order.2 others
    exact ⟨d :: ds, List.forall_mem_cons.mpr ⟨known, knowns⟩, gives_entryDigests_cons hd hds,
      gives_entryDigests_cons hd' hds'⟩

/-- Both values are containers of one kind. -/
def Value.SameKind : Value → Value → Prop
  | .list _, .list _ | .tuple _, .tuple _ | .set _, .set _ | .record .., .record .. => True
  | _, _ => False

/-- Only a container of the same kind equals a container. -/
theorem sameKind_of_equals (lawful : KeepsContract P) {v w : Value} (hv : v.isContainer = true)
    (hw : w.IsEntry P) (h : v.Equals w) : v.SameKind w := by
  have container : w.isContainer = true := by
    by_contra scalar
    rw [Bool.not_eq_true] at scalar
    rw [isEntry_of_scalar P scalar] at hw
    exact (lawful.apart w v hw hv).2 h
  obtain ⟨swapped, before, after, same⟩ := h
  rcases sameIn_cases (isOrdinary_of_isContainer hv) (isOrdinary_of_isContainer container) same with
    ⟨_, _, rfl, rfl⟩ | ⟨_, _, rfl, rfl⟩ | ⟨_, _, rfl, rfl⟩ | ⟨_, _, _, _, rfl, rfl⟩ | ⟨rfl, rfl⟩ |
    scalar | scalar
  · trivial
  · trivial
  · trivial
  · trivial
  · cases hv
  · rw [Value.sameScalar_of_isContainer (.inl hv)] at scalar
    cases scalar
  · rw [Value.sameScalar_of_isContainer (.inr hv)] at scalar
    cases scalar

theorem forall₂_equals_of_list {vs ws : List Value} (h : (Value.list vs).Equals (.list ws)) :
    List.Forall₂ Value.Equals vs ws := by
  obtain ⟨swapped, before, after, h⟩ := h
  rw [Value.sameIn.eq_def] at h
  dsimp only at h
  split at h
  · exact forall₂_equals_of_sameAll h
  · exact absurd h not_report_false

theorem forall₂_equals_of_tuple {vs ws : List Value} (h : (Value.tuple vs).Equals (.tuple ws)) :
    List.Forall₂ Value.Equals vs ws := by
  obtain ⟨swapped, before, after, h⟩ := h
  rw [Value.sameIn.eq_def] at h
  exact forall₂_equals_of_sameAll h

theorem agree_of_scalar (lawful : KeepsContract P) {v w : Value} (scalar : v.isContainer = false)
    (hv : v.IsEntry P) (hw : w.IsEntry P) (equal : v.Equals w) :
    Agree v.entryDigest w.entryDigest := by
  rw [isEntry_of_scalar P scalar] at hv
  have scalar' : w.isContainer = false := by
    by_contra container
    rw [Bool.not_eq_false] at container
    exact (lawful.apart v w hv container).1 equal
  rw [isEntry_of_scalar P scalar'] at hw
  obtain ⟨d, hd⟩ := lawful.digest v hv
  obtain ⟨e, he⟩ := lawful.digest w hw
  obtain ⟨rfl, known⟩ := Digest.same_iff.mp (lawful.same v w d e hv hw equal hd he)
  rw [entryDigest_of_scalar scalar, entryDigest_of_scalar scalar']
  exact ⟨d, known, hd, he⟩

/-- Equal values in the same order have equal digests as values of a record. -/
theorem agree_of_equals (lawful : KeepsContract P) (v w : Value) (hv : v.IsEntry P)
    (hw : w.IsEntry P) (order : v.InOrder w) (equal : v.Equals w) :
    Agree v.entryDigest w.entryDigest := by
  induction v using Value.containerInduction generalizing w with
  | scalar v scalar => exact agree_of_scalar lawful scalar hv hw equal
  | list vs ih =>
    have kind := sameKind_of_equals lawful rfl hw equal
    cases w with
    | list ws => exact (agreeAll_of_equals (forall₂_equals_of_list equal) hv hw order ih).tuple
    | _ => exact kind.elim
  | tuple vs ih =>
    have kind := sameKind_of_equals lawful rfl hw equal
    cases w with
    | tuple ws => exact (agreeAll_of_equals (forall₂_equals_of_tuple equal) hv hw order ih).tuple
    | _ => exact kind.elim
  | set vs ih =>
    have kind := sameKind_of_equals lawful rfl hw equal
    cases w with
    | set ws => exact (agreeAll_of_equals order.1 hv hw order.2 ih).tuple
    | _ => exact kind.elim
  | record frozen es ih =>
    have kind := sameKind_of_equals lawful rfl hw equal
    cases w with
    | record frozen' fs =>
      have values := forall₂_equals_of_record hv.1 order.1 equal
      exact (agreeEntries_of_equals values hv.2 hw.2 order.2 ih).record order.1
    | _ => exact kind.elim

end Agreement

end Relational

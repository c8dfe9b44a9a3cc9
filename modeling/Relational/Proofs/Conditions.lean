import Relational.Proofs.Realization

/-!
# Conditions that express restrictions

A condition expresses a restriction on the rows of a relation if it is accepted wherever the names
of the relation are visible, and has the truth value of the restriction for every row, whatever
other cells the row has. Conditions of tuple sets and of matches in other relations do so.
-/

namespace Relational

variable {V : Type} [DecidableEq V]

/-- A condition has, wherever the names of a header are visible, the truth value that a restriction
has for the cells under these names. -/
def Sql.Cond.Expresses (server : Server V) (db : Instance V) (h : Header) (c : Sql.Cond)
    (t : Row V → Truth) : Prop :=
  ∀ scope, h.names ⊆ scope → ∃ u, c.truth server db scope = some u ∧ ∀ r, u r = t (r.only h.names)

open Sql

variable {server : Server V} {db : Instance V} {h : Header} {c : Cond} {t : Row V → Truth}

theorem expresses_congr {t' : Row V → Truth} (hc : c.Expresses server db h t)
    (e : ∀ r : Row V, t (r.only h.names) = t' (r.only h.names)) : c.Expresses server db h t' := by
  intro scope hs
  obtain ⟨u, hu, eqv⟩ := hc scope hs
  exact ⟨u, hu, fun r => (eqv r).trans (e r)⟩

theorem expresses_constant (b : Bool) :
    (Cond.constant b).Expresses server db h fun _ => some b :=
  fun _ _ => ⟨_, rfl, fun _ => rfl⟩

theorem expresses_bracket (negated : Bool) (hc : c.Expresses server db h t) :
    (bracket negated c).Expresses server db h fun r => (t r).negateIf negated := by
  intro scope hs
  obtain ⟨u, hu, eqv⟩ := hc scope hs
  cases negated with
  | false => exact ⟨u, hu, eqv⟩
  | true =>
    refine ⟨fun r => (u r).not, ?_, fun r => congrArg Truth.not (eqv r)⟩
    simp [bracket, Cond.truth, hu]

theorem isLoose_bracket (negated : Bool) (c : Cond) : (bracket negated c).isLoose = false := by
  cases negated <;> rfl

/-- Several conditions have the truth values of several restrictions. -/
theorem truths_of_expresses {cs : List Cond} {ts : List (Row V → Truth)}
    (hcs : List.Forall₂ (Cond.Expresses server db h) cs ts) {scope : List String}
    (hs : h.names ⊆ scope) :
    ∃ us, truths server db scope cs = some us ∧
      ∀ r, us.map (· r) = ts.map (· (r.only h.names)) := by
  induction hcs with
  | nil => exact ⟨[], rfl, fun _ => rfl⟩
  | cons hc _ ih =>
    obtain ⟨u, hu, eqv⟩ := hc scope hs
    obtain ⟨us, hus, eqvs⟩ := ih
    exact ⟨u :: us, by simp [truths, hu, hus], fun r => by simp [eqv, eqvs]⟩

theorem expresses_conj {cs : List Cond} {ts : List (Row V → Truth)}
    (hcs : List.Forall₂ (Cond.Expresses server db h) cs ts) (hne : cs ≠ [])
    (tight : ∀ c ∈ cs, c.isLoose = false) :
    (Cond.conj cs).Expresses server db h fun r => Truth.all (ts.map (· r)) := by
  intro scope hs
  obtain ⟨us, hus, eqv⟩ := truths_of_expresses hcs hs
  refine ⟨fun r => Truth.all (us.map (· r)), ?_, fun r => congrArg Truth.all (eqv r)⟩
  have none : cs.any Cond.isLoose = false := by simpa using tight
  simp [Cond.truth, hus, hne, none]

theorem expresses_disj {cs : List Cond} {ts : List (Row V → Truth)}
    (hcs : List.Forall₂ (Cond.Expresses server db h) cs ts) (hne : cs ≠ []) :
    (Cond.disj cs).Expresses server db h fun r => Truth.any (ts.map (· r)) := by
  intro scope hs
  obtain ⟨us, hus, eqv⟩ := truths_of_expresses hcs hs
  refine ⟨fun r => Truth.any (us.map (· r)), ?_, fun r => congrArg Truth.any (eqv r)⟩
  simp [Cond.truth, hus, hne]

/-- A restrictor without effective tuples holds everywhere or nowhere. -/
theorem expresses_emptyRestrictor (negated common : Bool) :
    ((emptyRestrictor negated common).getD (.constant true)).Expresses server db h
      fun _ => Truth.negateIf negated (some !common) := by
  cases negated <;> cases common <;> exact expresses_constant _

/-! ### Tuple sets -/

theorem entries_ofEntries {es : List (Label × Value)} (hn : (labels es).Nodup) :
    (Record.ofEntries es).entries = es := by
  have insertAll (r : Record) (hd : (labels (r.entries ++ es)).Nodup) :
      (r.insertAll es).entries = r.entries ++ es := by
    clear hn
    induction es generalizing r with
    | nil => simp [Record.insertAll]
    | cons e es ih =>
      have new : e.1 ∉ labels r.entries := by
        intro hm
        rw [labels, List.map_append, List.nodup_append] at hd
        exact hd.2.2 e.1 hm e.1 (by simp) rfl
      have put : (r.insert e.1 e.2).entries = r.entries ++ [e] := by
        simp [Record.insert, putEntry, new]
      show ((r.insert e.1 e.2).insertAll es).entries = _
      rw [ih _ (by simpa [put] using hd), put, List.append_assoc]
      rfl
  exact insertAll Record.empty hn

/-- The entries of a projected record are those under the given names. -/
theorem entries_project (record : Record) {names : List String} (hn : names.Nodup) :
    (record.project (names.map Label.name)).entries =
      names.filterMap fun n => (record.get? (.name n)).map (Label.name n, ·) := by
  have keys : (labels ((names.map Label.name).filterMap fun k =>
      (record.get? k).map (k, ·))).Nodup := by
    have sub : labels ((names.map Label.name).filterMap fun k => (record.get? k).map (k, ·)) =
        (names.map Label.name).filter fun k => (record.get? k).isSome := by
      generalize names.map Label.name = ks
      induction ks with
      | nil => rfl
      | cons k ks ih =>
        cases hk : record.get? k <;> simp_all [labels]
    rw [sub]
    refine List.Nodup.filter _ (List.Nodup.map ?_ hn)
    intro a b e
    cases e
    rfl
  rw [Record.project, entries_ofEntries keys, List.filterMap_map]
  rfl

theorem literal_settle (a : Attribute) (v : Value) : v.literal a.settle = v.literal a := by
  unfold Value.literal Value.refuseLiteral
  rw [Attribute.outputName_settle, show a.settle.type = a.type from Attribute.type_resolve a]

theorem hasValue_settle (a : Attribute) (v : Value) (cell : Option V) :
    a.settle.hasValue server v cell = a.hasValue server v cell := by
  unfold Attribute.hasValue
  simp only [Attribute.isBlob_settle, literal_settle]

/-- The comparison of an entry expresses that the row has its value. -/
theorem expresses_of_encodeEntry (server : Server V) (db : Instance V) {n : String} {v : Value}
    (he : encodeEntry h (.name n, v) = .ok c) :
    ∃ a, h.find? n = some a ∧ c.isLoose = false ∧
      c.Expresses server db h fun r => a.hasValue server v (r n) := by
  obtain ⟨field, a, hk, hf, hc⟩ := encodeEntry_cases he
  cases hk
  have named : n ∈ h.names := Header.mem_names_iff.mpr ⟨a, Header.find?_eq_some_iff.mp hf⟩
  refine ⟨a, hf, ?_⟩
  obtain ⟨rfl, blob, rfl⟩ | ⟨present, l, hl, rfl⟩ := hc
  · refine ⟨rfl, fun scope hs => ⟨fun r => some (r n).isNone, ?_, fun r => ?_⟩⟩
    · simp [Cond.truth, hs named]
    · simp [Attribute.hasValue, blob, Row.only_of_mem named]
  · refine ⟨rfl, fun scope hs => ⟨fun r => Row.equal (r n) (some (server.literal l)), ?_,
      fun r => ?_⟩⟩
    · simp [Cond.truth, hs named]
    · simp only [Row.only_of_mem named]
      unfold Attribute.hasValue
      split
      · exact absurd rfl present
      · rw [hl]

/-- What the entries of a record under some names say, attribute by attribute. -/
def Record.tests (record : Record) (server : Server V) (h : Header) (names : List String) :
    List (Row V → Truth) :=
  names.filterMap fun n => do
    let a ← h.find? n
    let v ← record.get? (.name n)
    return fun r => a.hasValue server v (r n)

theorem matched_eq_all_tests (record : Record) (names : List String) (r : Row V) :
    record.matched server h.settle names r =
      Truth.all ((record.tests server h names).map (· r)) := by
  unfold Record.matched Record.tests
  rw [List.map_filterMap]
  congr 2
  funext n
  rw [Header.find?_settle]
  cases h.find? n <;> cases record.get? (.name n) <;> simp [hasValue_settle]

theorem expresses_tests (server : Server V) (db : Instance V) {record : Record}
    {names : List String} {cs : List Cond}
    (hcs : List.Forall₂ (fun e d => encodeEntry h e = .ok d)
      (names.filterMap fun n => (record.get? (.name n)).map (Label.name n, ·)) cs) :
    List.Forall₂ (Cond.Expresses server db h) cs (record.tests server h names) ∧
      ∀ c ∈ cs, c.isLoose = false := by
  induction names generalizing cs with
  | nil =>
    cases hcs
    exact ⟨.nil, by simp⟩
  | cons n names ih =>
    cases hv : record.get? (.name n) with
    | none =>
      have skip : record.tests server h (n :: names) = record.tests server h names := by
        cases hf : h.find? n <;> simp [Record.tests, hv, hf]
      rw [skip]
      exact ih (by simpa [hv] using hcs)
    | some v =>
      simp only [List.filterMap_cons, hv, Option.map_some] at hcs
      cases hcs with
      | cons he hcs =>
        obtain ⟨a, hf, tight, expresses⟩ := expresses_of_encodeEntry server db he
        obtain ⟨all, tights⟩ := ih hcs
        refine ⟨?_, by simpa [tight] using tights⟩
        have first : record.tests server h (n :: names) =
            (fun r => a.hasValue server v (r n)) :: record.tests server h names := by
          simp [Record.tests, hv, hf]
        rw [first]
        exact .cons expresses all

/-- The comparisons of a record express that the row matches it. -/
theorem expresses_of_encodeRecord {record : Record} {names : List String} (hn : names.Nodup)
    (he : encodeRecord h (record.project (names.map Label.name)) = .ok c) :
    c.isLoose = false ∧ c.Expresses server db h (record.matched server h.settle names) := by
  have tests (r : Row V) : Truth.all ((record.tests server h names).map (· r)) =
      record.matched server h.settle names r := (matched_eq_all_tests record names r).symm
  obtain ⟨empty, rfl⟩ | ⟨cs, hne, hcs, rfl⟩ := encodeRecord_cases he
  · rw [entries_project record hn] at empty
    have none : record.tests server h names = [] := by
      have pairs : List.Forall₂ (fun e d => encodeEntry h e = .ok d)
          (names.filterMap fun n => (record.get? (.name n)).map (Label.name n, ·)) [] := by
        rw [empty]
        exact .nil
      exact List.forall₂_nil_left_iff.mp (expresses_tests server db pairs).1
    refine ⟨rfl, expresses_congr (expresses_constant true) fun r => ?_⟩
    rw [← tests, none]
    rfl
  · rw [entries_project record hn] at hcs
    obtain ⟨all, tight⟩ := expresses_tests server db hcs
    exact ⟨rfl, expresses_congr (expresses_conj all hne tight) fun r => tests _⟩

/-- The alternatives of several records express that the row matches one of them. -/
theorem expresses_of_encodeRecords (server : Server V) (db : Instance V)
    {records : List Record} {names : List String} (hn : names.Nodup)
    (he : encodeRecords h (records.map (·.project (names.map Label.name))) = .ok c) :
    (records.length = 1 → c.isLoose = false) ∧
      c.Expresses server db h fun r =>
        Truth.any (records.map fun record => record.matched server h.settle names r) := by
  obtain ⟨cs, pairs, hc⟩ := encodeRecords_cases he
  rw [List.forall₂_map_left_iff] at pairs
  have each : List.Forall₂ (fun d t => d.isLoose = false ∧ Cond.Expresses server db h d t) cs
      (records.map fun record => record.matched server h.settle names) := by
    rw [List.forall₂_map_right_iff]
    exact pairs.flip.imp fun d record hd => expresses_of_encodeRecord hn hd
  have values (r : Row V) : (records.map fun record => record.matched server h.settle names).map
      (· r) = records.map fun record => record.matched server h.settle names r := by
    simp
  obtain ⟨single, rfl⟩ | ⟨several, rfl⟩ := hc
  · obtain ⟨record, rfl⟩ := List.length_eq_one_iff.mp (by simpa using single)
    obtain ⟨tight, expresses⟩ := (List.forall₂_cons.mp each).1
    refine ⟨fun _ => tight, expresses_congr expresses fun r => ?_⟩
    rw [← values, List.map_singleton, List.map_singleton, Truth.any_singleton]
  · refine ⟨fun single => ?_, expresses_congr (expresses_disj (each.imp fun _ _ h => h.2) ?_)
      fun r => by rw [values]⟩
    · rw [List.length_map] at several
      omega
    · rintro rfl
      rw [List.forall₂_nil_right_iff] at pairs
      simp [pairs] at several

/-- The fields that a tuple set keeps for a header are those that they have in common. -/
theorem TupleSet.fields_project (t : TupleSet) (h : Header) :
    (t.project h.names).fields = (t.commonFields h).map Label.name := by
  simp [TupleSet.project, TupleSet.commonFields, List.filter_map, Function.comp_def]

theorem TupleSet.records_project (t : TupleSet) (h : Header) :
    (t.project h.names).records =
      t.records.map (·.project ((t.commonFields h).map Label.name)) := by
  rw [← fields_project]
  rfl

theorem TupleSet.nodup_commonFields (t : TupleSet) (h : Header) : (t.commonFields h).Nodup :=
  List.Nodup.filter _ h.nodup

/-- The condition of a tuple set expresses that the row matches it. -/
theorem expresses_of_tuples (server : Server V) (db : Instance V) {t : TupleSet} {negated : Bool}
    {w : Option Cond} {ctx ctx' : Context} (hr : (t.condition h negated).Returns ctx w ctx') :
    (w.getD (.constant true)).isLoose = false ∧
      (w.getD (.constant true)).Expresses server db h fun r =>
        (t.matched server h.settle r).negateIf negated := by
  have common : t.commonFields h.settle = t.commonFields h := by
    simp [TupleSet.commonFields]
  obtain ⟨-, cases⟩ := TupleSet.condition_cases hr
  rw [t.fields_project, t.records_project] at cases
  obtain ⟨none, rfl⟩ | ⟨some, none, rfl⟩ | ⟨some, nonempty, c, hc, rfl⟩ := cases
  · refine ⟨by cases negated <;> rfl, expresses_congr (expresses_emptyRestrictor _ _) fun r => ?_⟩
    rw [List.map_eq_nil_iff] at none
    simp [TupleSet.matched, common, none]
  · refine ⟨by cases negated <;> rfl, expresses_congr (expresses_emptyRestrictor _ _) fun r => ?_⟩
    rw [List.map_eq_nil_iff] at none
    rw [ne_eq, List.map_eq_nil_iff] at some
    obtain ⟨n, ns, e⟩ := List.exists_cons_of_ne_nil some
    simp [TupleSet.matched, common, none, e]
  · rw [ne_eq, List.map_eq_nil_iff] at some
    obtain ⟨n, ns, e⟩ := List.exists_cons_of_ne_nil some
    obtain ⟨tight, expresses⟩ := expresses_of_encodeRecords server db (t.nodup_commonFields h) hc
    have matched (r : Row V) : t.matched server h.settle r = Truth.any (t.records.map fun record =>
        record.matched server h.settle (t.commonFields h) r) := by
      simp [TupleSet.matched, common, e]
    rw [Option.getD_some, List.length_map]
    split
    · exact ⟨isLoose_bracket negated c,
        expresses_congr (expresses_bracket negated expresses) fun r => by rw [matched]⟩
    · rename_i plain
      simp only [Bool.or_eq_true, decide_eq_true_eq, not_or, Bool.not_eq_true] at plain
      obtain ⟨short, rfl⟩ := plain
      have positive : 0 < t.records.length := List.length_pos_of_ne_nil (by simpa using nonempty)
      exact ⟨tight (by omega), expresses_congr expresses fun r => (matched _).symm⟩

/-! ### Matches in other relations -/

/-- A subquery on the fragment of a relation expresses that the row has a match there. -/
theorem expresses_of_match {d : Compiled} {rel : Relation V}
    (hd : RealizesExactly server db d rel) (h : Header) (negated : Bool) :
    ((d.condition h negated).getD (.constant true)).isLoose = false ∧
      ((d.condition h negated).getD (.constant true)).Expresses server db h fun r =>
        (rel.matched h.settle r).negateIf negated := by
  unfold Compiled.condition
  cases hcols : h.nonBlobs.filter (· ∈ d.header.nonBlobs) with
  | nil =>
    refine ⟨by cases negated <;> rfl, expresses_congr (expresses_emptyRestrictor _ _) fun r => ?_⟩
    simp [Relation.matched, hd.header, hcols]
  | cons n ns =>
    rw [← hcols]
    have common {m : String} (hm : m ∈ n :: ns) : m ∈ h.nonBlobs ∧ m ∈ d.header.nonBlobs := by
      rw [← hcols, List.mem_filter] at hm
      exact ⟨hm.1, by simpa using hm.2⟩
    have outside : n :: ns ⊆ h.names := fun m hm => h.nonBlobs_subset_names (common hm).1
    have inside : n :: ns ⊆ rel.header.names := fun m hm =>
      hd.header ▸ d.header.nonBlobs_subset_names (common hm).2
    refine ⟨by rw [hcols]; rfl, fun scope hs => ?_⟩
    rw [hcols]
    obtain ⟨s, evaluates, ending, columns, rows⟩ := hd.source scope
    have nodup : (n :: ns).Nodup := by
      rw [← hcols]
      refine List.Nodup.filter _ ?_
      exact h.nodup.sublist (List.filter_sublist.map Attribute.outputName)
    have accepts : s.Accepts scope ((n :: ns).map Sql.Column.name) := by
      refine ⟨by simp, by simpa [Function.comp_def, Sql.Column.outputName] using nodup, ?_⟩
      intro column hc
      obtain ⟨m, hm, rfl⟩ := List.mem_map.mp hc
      simp [Sql.Column.isVisible, columns, inside hm]
    have select : s.select server scope ((n :: ns).map Sql.Column.name) =
        some ⟨_, .chain, s.image server ((n :: ns).map Sql.Column.name)⟩ := if_pos accepts
    refine ⟨_, truth_within evaluates negated select (List.Subset.trans outside hs), fun r => ?_⟩
    have matched (r : Row V) : rel.matched h.settle r =
        Truth.any (rel.rows.map (Row.matching (n :: ns) r)) := by
      simp [Relation.matched, hd.header, hcols]
    have read : s.image server ((n :: ns).map Sql.Column.name) r = rel.rows.map fun x =>
        tuple ((n :: ns).map Sql.Column.name) (Sql.Column.cell server (s.visible r x)) := by
      simp only [Source.image, ending, rows]
    show Truth.negateIf negated (Truth.any ((s.image server _ r).map _)) =
      Truth.negateIf negated (rel.matched h.settle (r.only h.names))
    rw [read, matched, List.map_map]
    congr 2
    refine List.map_congr_left fun x _ => Row.matching_congr (fun m hm => ?_) (fun m hm => ?_)
    · rw [Row.only_of_mem (outside hm)]
    · exact (tuple_names hm _).trans (if_pos ((columns m).mpr (inside hm)))

end Relational

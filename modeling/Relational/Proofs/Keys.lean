import Relational.Proofs.Heading

/-!
# Keys of relations

If the keys of all tables are keys, then so is the key of every relation: each operator keeps enough
key attributes to tell its rows apart, although no statement ever removes duplicates.
-/

namespace Relational

namespace Header

variable {h k : Header} {specs : List String}

/-- The key of a settled header is read from the attributes that carry it through a projection. -/
theorem key_of_project {V : Type} (hs : h.settle = h) (hk : h.project specs = .ok k)
    {f g : Attribute → Option V} {r s : Row V}
    (hf : ∀ a, a.expression = none → f a = r a.name)
    (hg : ∀ a, a.expression = none → g a = s a.name)
    (e : (k.image f).key k.primaryKey = (k.image g).key k.primaryKey) :
    r.key h.primaryKey = s.key h.primaryKey := by
  refine Row.key_eq_key_iff.mpr fun n hn => ?_
  obtain ⟨b, hb, key, rfl⟩ := mem_primaryKey_iff.mp hn
  have plain := settle_eq_self_iff.mp hs b hb
  obtain ⟨a, ha, akey, name, expression⟩ := exists_key_of_project hk hb key
  have found : k.find? a.outputName = some a := find?_eq_some_iff.mpr ⟨ha, rfl⟩
  have same := Row.key_eq_key_iff.mp e a.outputName
    (mem_primaryKey_iff.mpr ⟨a, ha, akey, rfl⟩)
  simp only [image, found, Option.bind_some] at same
  have computed : a.expression = none := expression.trans plain.2
  rw [hf a computed, hg a computed, name] at same
  simpa [Attribute.outputName, plain.1] using same

end Header

/-- Keys that are told apart by other keys are different. -/
theorem nodup_map_of_imp {α β γ : Type} {f : α → β} {g : α → γ} {l : List α}
    (hf : (l.map f).Nodup) (e : ∀ a ∈ l, ∀ b ∈ l, g a = g b → f a = f b) : (l.map g).Nodup := by
  rw [List.Nodup, List.pairwise_map] at hf ⊢
  exact hf.imp_of_mem fun ha hb hne he => hne (e _ ha _ hb he)

namespace Relation

variable {V : Type} {rel : Relation V}

theorem IsKeyed.restrict (h : rel.IsKeyed) (ts : List (Row V → Truth)) :
    (rel.restrict ts).IsKeyed :=
  h.sublist (List.filter_sublist.map _)

/-- A projection keeps the key, perhaps under other names. -/
theorem IsKeyed.project {server : Server V} {p : Relation V} {specs : List String}
    (h : rel.IsKeyed) (hs : rel.header.settle = rel.header)
    (hp : rel.project server specs = .ok p) : p.IsKeyed := by
  obtain ⟨k, hk, header, rows⟩ := project_eq_ok_iff.mp hp
  rw [IsKeyed, header, rows, Header.primaryKey_settle, List.map_map]
  refine nodup_map_of_imp h fun r _ s _ e => ?_
  exact Header.key_of_project hs hk (fun a he => by simp [Attribute.cell, he])
    (fun a he => by simp [Attribute.cell, he]) e

variable [DecidableEq V]

/-- Combined rows are told apart by the keys of both sides. -/
theorem IsKeyed.join {l r j : Relation V} (hl : l.IsKeyed) (hr : r.IsKeyed)
    (hj : l.join r = .ok j) : j.IsKeyed := by
  obtain ⟨header, rows⟩ := join_eq_ok_iff.mp hj
  rw [IsKeyed, rows, combinations, Row.join, List.map_flatMap, List.nodup_flatMap]
  constructor
  · -- Rows from the same row on the left differ in the key of the right.
    intro x _
    rw [List.map_map]
    refine nodup_map_of_imp (hr.sublist (List.filter_sublist.map _)) fun y hy z hz e => ?_
    have my := Row.matching_eq_true_iff.mp (by simpa using (List.mem_filter.mp hy).2)
    have mz := Row.matching_eq_true_iff.mp (by simpa using (List.mem_filter.mp hz).2)
    refine Row.key_eq_key_iff.mpr fun n hn => ?_
    have same := Row.key_eq_key_iff.mp e n ((Header.mem_primaryKey_join_iff header).mpr (.inr hn))
    by_cases hm : n ∈ l.header.names
    · obtain ⟨v, hv, hy⟩ := my n (Row.mem_shared.mpr ⟨hm, r.header.primaryKey_subset_names hn⟩)
      obtain ⟨w, hw, hz⟩ := mz n (Row.mem_shared.mpr ⟨hm, r.header.primaryKey_subset_names hn⟩)
      rw [hy, hz, ← hv, ← hw]
    · simpa [Row.merge, hm] using same
  · -- Rows from different rows on the left differ in the key of the left.
    rw [IsKeyed, List.Nodup, List.pairwise_map] at hl
    refine hl.imp fun {x x'} hne k hk hk' => hne ?_
    simp only [List.mem_map] at hk hk'
    obtain ⟨_, ⟨y, -, rfl⟩, rfl⟩ := hk
    obtain ⟨_, ⟨y', -, rfl⟩, e⟩ := hk'
    refine Row.key_eq_key_iff.mpr fun n hn => ?_
    have same := Row.key_eq_key_iff.mp e n ((Header.mem_primaryKey_join_iff header).mpr (.inl hn))
    simpa [Row.merge, l.header.primaryKey_subset_names hn] using same.symm

/-- The rows of an aggregation are told apart by the keys of their groups. -/
theorem isKeyed_aggregate {server : Server V} {l r a : Relation V} {specs : List String}
    (hs : l.header.settle = l.header) (ha : l.aggregate server r specs = .ok a) : a.IsKeyed := by
  obtain ⟨k, hk, header, rows⟩ := aggregate_eq_ok_iff.mp ha
  rw [IsKeyed, header, rows, Header.primaryKey_settle, Row.groups, List.map_map, List.map_map]
  refine List.Nodup.map_on ?_ (List.nodup_dedup _)
  intro k₁ h₁ k₂ h₂ e
  have first : ∀ k ∈ ((l.combinations r).map (Row.key l.header.primaryKey)).dedup,
      ∃ x rest, ((l.combinations r).filter fun y => Row.key l.header.primaryKey y = k) = x :: rest ∧
        Row.key l.header.primaryKey x = k := by
    intro k hk
    obtain ⟨y, hy, hyk⟩ := List.mem_map.mp (List.mem_dedup.mp hk)
    have member : y ∈ (l.combinations r).filter fun y => Row.key l.header.primaryKey y = k :=
      List.mem_filter.mpr ⟨hy, by simpa using hyk⟩
    obtain ⟨x, rest, hx⟩ := List.exists_cons_of_ne_nil (List.ne_nil_of_mem member)
    refine ⟨x, rest, hx, ?_⟩
    have : x ∈ (l.combinations r).filter fun y => Row.key l.header.primaryKey y = k := by
      rw [hx]
      exact List.mem_cons_self
    simpa using (List.mem_filter.mp this).2
  obtain ⟨x₁, rest₁, g₁, rfl⟩ := first k₁ h₁
  obtain ⟨x₂, rest₂, g₂, rfl⟩ := first k₂ h₂
  simp only [Function.comp_apply, g₁, g₂] at e
  exact Header.key_of_project hs hk (fun a he => by simp [Attribute.groupCell, he])
    (fun a he => by simp [Attribute.groupCell, he]) e

end Relation

/-- The tables that an expression is built from, restrictions apart, with their headers. -/
def Expr.bases : Expr → List (TableRef × Header)
  | .table t h _ => [(t, h)]
  | .project e _ _ => e.bases
  | .aggregate e g _ _ => e.bases ++ g.bases
  | .join l r _ => l.bases ++ r.bases
  | .union _ | .negation _ => []
termination_by structural e => e

section Keyed

variable {V : Type}

/-- No two rows of a table agree on the key attributes of its header. -/
def Instance.KeyHolds (db : Instance V) (base : TableRef × Header) : Prop :=
  ((db.rows base.1).map (Row.key base.2.primaryKey)).Nodup

instance [DecidableEq V] (db : Instance V) (base : TableRef × Header) :
    Decidable (db.KeyHolds base) :=
  inferInstanceAs (Decidable (List.Nodup _))

theorem isKeyed_ofTable {db : Instance V} {t : TableRef} {h : Header} (hk : db.KeyHolds (t, h)) :
    (Relation.ofTable db t h).IsKeyed := by
  show (((db.rows t).map (Row.only h.names)).map (Row.key h.settle.primaryKey)).Nodup
  rw [Header.primaryKey_settle, List.map_map]
  refine nodup_map_of_imp hk fun r _ s _ e => Row.key_eq_key_iff.mpr fun n hn => ?_
  have same := Row.key_eq_key_iff.mp e n hn
  have hm := h.primaryKey_subset_names hn
  rwa [Row.only_of_mem hm, Row.only_of_mem hm] at same

variable [DecidableEq V] {server : Server V} {db : Instance V}

/-- Restrictions keep the header and the key. -/
theorem isKeyed_of_unrestricted {e : Expr} {rel : Relation V}
    (hr : e.relation server db = .ok rel)
    (hb : ∀ base, e.unrestricted.relation server db = .ok base →
      base.header.settle = base.header ∧ base.IsKeyed) :
    rel.header.settle = rel.header ∧ rel.IsKeyed := by
  obtain ⟨base, ts, hu, -, rfl⟩ := relation_eq_ok_iff.mp hr
  obtain ⟨settled, keyed⟩ := hb base hu
  exact ⟨settled, keyed.restrict ts⟩

/-- The key of every relation is a key if those of its tables are. -/
theorem isKeyed_relation {e : Expr} {rel : Relation V} (hr : e.relation server db = .ok rel)
    (hk : ∀ base ∈ e.bases, db.KeyHolds base) :
    rel.header.settle = rel.header ∧ rel.IsKeyed :=
  match e with
  | .table t h rs => isKeyed_of_unrestricted hr fun base hu => by
    cases restrictBy_nil.symm.trans hu
    exact ⟨Header.settle_settle h, isKeyed_ofTable (hk (t, h) (by simp [Expr.bases]))⟩
  | .project e specs rs => isKeyed_of_unrestricted hr fun base hu => by
    obtain ⟨input, hi, hp⟩ := relation_project_eq_ok_iff.mp hu
    obtain ⟨settled, keyed⟩ := isKeyed_relation hi hk
    obtain ⟨k, -, header, -⟩ := Relation.project_eq_ok_iff.mp hp
    exact ⟨by rw [header, Header.settle_settle], keyed.project settled hp⟩
  | .aggregate e g specs rs => isKeyed_of_unrestricted hr fun base hu => by
    obtain ⟨input, grouping, hi, -, ha⟩ := relation_aggregate_eq_ok_iff.mp hu
    obtain ⟨settled, -⟩ := isKeyed_relation hi fun b hb => hk b (List.mem_append_left _ hb)
    obtain ⟨k, -, header, -⟩ := Relation.aggregate_eq_ok_iff.mp ha
    exact ⟨by rw [header, Header.settle_settle], Relation.isKeyed_aggregate settled ha⟩
  | .join l r rs => isKeyed_of_unrestricted hr fun base hu => by
    obtain ⟨left, right, hl, hr, hj⟩ := relation_join_eq_ok_iff.mp hu
    obtain ⟨lsettled, lkeyed⟩ := isKeyed_relation hl fun b hb => hk b (List.mem_append_left _ hb)
    obtain ⟨rsettled, rkeyed⟩ := isKeyed_relation hr fun b hb => hk b (List.mem_append_right _ hb)
    have header := (Relation.join_eq_ok_iff.mp hj).1
    have settled := Header.join_settle header
    rw [lsettled, rsettled] at settled
    exact ⟨(Except.ok.inj (header.symm.trans settled)).symm, lkeyed.join rkeyed hj⟩
  | .union _ => nomatch hr
  | .negation _ => nomatch hr
termination_by structural e

/-- **The key that a compiled header marks is a key.** If no two rows of a table agree on the key of
its header, for all tables of an expression, then no two rows of its relation agree on all
attributes that the compiled header marks as key. -/
theorem nodup_key_of_compile {mode : Enclosure} {e : Expr} {c : Compiled} {ctx ctx' : Context}
    (hr : (e.compile mode).Returns ctx c ctx') (hk : ∀ base ∈ e.bases, db.KeyHolds base) :
    ∃ rel, e.relation server db = .ok rel ∧
      rel.rows.Pairwise fun r s => ∃ a ∈ c.header.attributes,
        a.isKey = true ∧ r a.outputName ≠ s a.outputName := by
  obtain ⟨rel, hrel, header⟩ : (Outcome.compiled mode e c).Meaningful server db :=
    (derives_of_returns hr).meaningful
  refine ⟨rel, hrel, ?_⟩
  have keyed := (isKeyed_relation hrel hk).2
  rw [Relation.IsKeyed, List.Nodup, List.pairwise_map] at keyed
  refine keyed.imp fun {r s} hne => ?_
  rw [header, Header.primaryKey_settle, ne_eq, Row.key_eq_key_iff] at hne
  push Not at hne
  obtain ⟨n, hn, differs⟩ := hne
  obtain ⟨a, ha, key, rfl⟩ := Header.mem_primaryKey_iff.mp hn
  exact ⟨a, ha, key, differs⟩

end Keyed

namespace Sample

theorem nodup_key_of_compile_trialCounts :
    ∃ c ctx, (trialCounts.compile .never).Returns {} c ctx ∧
      (∀ base ∈ trialCounts.bases, database.KeyHolds base) ∧
      ∃ rel, trialCounts.relation server database = .ok rel ∧
        rel.rows.Pairwise fun r s => ∃ a ∈ c.header.attributes,
          a.isKey = true ∧ r a.outputName ≠ s a.outputName :=
  have hr : (trialCounts.compile .never).Returns {} _ _ := rfl
  have hk : ∀ base ∈ trialCounts.bases, database.KeyHolds base := by decide
  ⟨_, _, hr, hk, nodup_key_of_compile hr hk⟩

end Sample

end Relational

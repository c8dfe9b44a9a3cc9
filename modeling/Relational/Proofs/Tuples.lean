import Mathlib.Data.List.Forall2
import Relational.Proofs.Derivation

/-!
# Conditions of tuple sets

A tuple set is compiled by comparing entries: every comparison names an attribute of the header, the
comparisons of a record hold together, and the records are alternatives.
-/

namespace Relational

section Except

variable {ε α β : Type}

theorem bind_eq_ok {x : Except ε α} {f : α → Except ε β} {b : β} :
    (x >>= f) = .ok b ↔ ∃ a, x = .ok a ∧ f a = .ok b := by
  cases x with
  | error err => exact ⟨fun h => (nomatch h), fun ⟨_, h, _⟩ => (nomatch h)⟩
  | ok a => exact ⟨fun h => ⟨a, rfl, h⟩, fun ⟨_, h, hf⟩ => by cases h; exact hf⟩

theorem pure_eq_ok {a b : α} : (pure a : Except ε α) = .ok b ↔ a = b :=
  ⟨fun h => by cases h; rfl, fun h => h ▸ rfl⟩

/-- All results of a list succeed together. -/
theorem forall₂_of_mapM_eq_ok {f : α → Except ε β} {l : List α} {bs : List β}
    (h : l.mapM f = .ok bs) : List.Forall₂ (fun a b => f a = .ok b) l bs := by
  induction l generalizing bs with
  | nil =>
    rw [List.mapM_nil] at h
    rw [← pure_eq_ok.mp h]
    exact .nil
  | cons a l ih =>
    rw [List.mapM_cons] at h
    obtain ⟨b, hb, h⟩ := bind_eq_ok.mp h
    obtain ⟨bs', hbs, h⟩ := bind_eq_ok.mp h
    rw [← pure_eq_ok.mp h]
    exact .cons hb (ih hbs)

/-- If each item is related to one that `f` finds, `f` finds all of them. -/
theorem mapM_eq_pure_of_forall₂ {γ : Type} {m : Type → Type} [Monad m] [LawfulMonad m]
    {f : α → m γ} {R : α → β → Prop} {P : β → γ → Prop} {as : List α} {bs : List β}
    (h : List.Forall₂ R as bs) (step : ∀ a b, R a b → ∃ x, f a = pure x ∧ P b x) :
    ∃ xs, as.mapM f = pure xs ∧ List.Forall₂ P bs xs := by
  induction h with
  | nil => exact ⟨[], List.mapM_nil, .nil⟩
  | cons hab _ ih =>
    obtain ⟨x, hx, hp⟩ := step _ _ hab
    obtain ⟨xs, hxs, hps⟩ := ih
    exact ⟨x :: xs, by rw [List.mapM_cons, hx, hxs]; simp, .cons hp hps⟩

theorem exists_of_mem_right {R : α → β → Prop} {as : List α} {bs : List β}
    (h : List.Forall₂ R as bs) {b : β} (hb : b ∈ bs) : ∃ a ∈ as, R a b := by
  induction h with
  | nil => cases hb
  | cons hab _ ih =>
    rcases List.mem_cons.mp hb with rfl | hb
    · exact ⟨_, by simp, hab⟩
    · obtain ⟨a, ha, hR⟩ := ih hb
      exact ⟨a, by simp [ha], hR⟩

end Except

/-- An entry is compared with the attribute of its name: by `IS NULL` if the value is missing, and
with a literal otherwise. -/
theorem encodeEntry_cases {h : Header} {k : Label} {v : Value} {c : Sql.Cond}
    (he : encodeEntry h (k, v) = .ok c) :
    ∃ field a, k = .name field ∧ h.find? field = some a ∧
      ((v = .null ∧ a.isBlob = false ∧ c = .isNull field) ∨
        (v ≠ .null ∧ ∃ l, v.literal a = .ok l ∧ c = .equal field l)) := by
  obtain ⟨⟨field, a⟩, hf, hc⟩ := bind_eq_ok.mp he
  clear he
  cases k with
  | position n => cases hf
  | name s =>
    obtain ⟨b, hb, hf⟩ := bind_eq_ok.mp hf
    cases pure_eq_ok.mp hf
    refine ⟨field, a, rfl, ?_, ?_⟩
    · unfold Header.get at hb
      split at hb
      · cases hb
        assumption
      · cases hb
    · dsimp only at hc
      split at hc
      · rename_i hblob
        exact .inl ⟨rfl, hblob, (pure_eq_ok.mp hc).symm⟩
      · rename_i hne
        obtain ⟨l, hl, hc⟩ := bind_eq_ok.mp hc
        refine .inr ⟨?_, l, hl, (pure_eq_ok.mp hc).symm⟩
        rintro rfl
        -- A missing value that is not looked for is compared with a blob, which has no literals.
        have blob : a.type = .blob := by simpa [Attribute.isBlob] using hne
        simp [Value.literal, blob] at hl

/-- A record holds if all its comparisons do; a record without entries always holds. -/
theorem encodeRecord_cases {h : Header} {r : Record} {c : Sql.Cond}
    (he : encodeRecord h r = .ok c) :
    (r.entries = [] ∧ c = .constant true) ∨
      ∃ cs, cs ≠ [] ∧ List.Forall₂ (fun e d => encodeEntry h e = .ok d) r.entries cs ∧
        c = .conj cs := by
  obtain ⟨cs, hcs, he⟩ := bind_eq_ok.mp he
  have pairs := forall₂_of_mapM_eq_ok hcs
  cases cs with
  | nil =>
    cases pure_eq_ok.mp he
    exact .inl ⟨List.forall₂_nil_right_iff.mp pairs, rfl⟩
  | cons d ds =>
    cases pure_eq_ok.mp he
    exact .inr ⟨d :: ds, by simp, pairs, rfl⟩

/-- Several records are alternatives; a single one stands for itself. -/
theorem encodeRecords_cases {h : Header} {rs : List Record} {c : Sql.Cond}
    (he : encodeRecords h rs = .ok c) :
    ∃ cs, List.Forall₂ (fun r d => encodeRecord h r = .ok d) rs cs ∧
      ((rs.length = 1 ∧ cs = [c]) ∨ (1 < rs.length ∧ c = .disj cs)) := by
  match rs, he with
  | [r], he => exact ⟨[c], .cons he .nil, .inl ⟨rfl, rfl⟩⟩
  | r :: r' :: rs, he =>
    obtain ⟨cs, hcs, he⟩ := bind_eq_ok.mp he
    cases pure_eq_ok.mp he
    exact ⟨cs, forall₂_of_mapM_eq_ok hcs, .inr ⟨by simp, rfl⟩⟩

theorem outcome_encodeTuples (h : Header) (rs : List Record) :
    ((encodeTuples h rs).run.run []).1 = encodeRecords h rs := by
  unfold encodeTuples
  split <;> rfl

theorem encodeRecords_of_returns {h : Header} {rs : List Record} {c : Sql.Cond}
    {ctx ctx' : Context} (hr : (liftReport (encodeTuples h rs)).Returns ctx c ctx') :
    ∃ notices, ctx' = { ctx with notices := notices } ∧ encodeRecords h rs = .ok c := by
  obtain ⟨_, ctx₁, hm, hr⟩ := returns_bind.mp hr
  obtain ⟨hc, rfl⟩ := returns_lift.mp hr
  cases hm
  exact ⟨_, rfl, outcome_encodeTuples h rs ▸ hc⟩

/-- The condition of a tuple set: none or false if it has no effective tuples, and otherwise the one
of its records, in brackets if it is negated or has alternatives. Only notices are added. -/
theorem TupleSet.condition_cases {t : TupleSet} {h : Header} {negated : Bool}
    {w : Option Sql.Cond} {ctx ctx' : Context}
    (hr : (t.condition h negated).Returns ctx w ctx') :
    (∃ notices, ctx' = { ctx with notices := notices }) ∧
      (((t.project h.names).fields = [] ∧ w = emptyRestrictor negated false) ∨
        ((t.project h.names).fields ≠ [] ∧ (t.project h.names).records = [] ∧
          w = emptyRestrictor negated true) ∨
        ((t.project h.names).fields ≠ [] ∧ (t.project h.names).records ≠ [] ∧
          ∃ c, encodeRecords h (t.project h.names).records = .ok c ∧
            w = some (if (t.project h.names).records.length > 1 || negated then bracket negated c
              else c))) := by
  unfold TupleSet.condition at hr
  dsimp only at hr
  obtain ⟨hf, hr⟩ | ⟨hf, hr⟩ := returns_ite.mp hr
  · obtain ⟨rfl, rfl⟩ := returns_pure.mp hr
    exact ⟨⟨ctx.notices, rfl⟩, .inl ⟨by simpa using hf, rfl⟩⟩
  · have fields : (t.project h.names).fields ≠ [] := by simpa using hf
    obtain ⟨hn, hr⟩ | ⟨hn, hr⟩ := returns_ite.mp hr
    · obtain ⟨rfl, rfl⟩ := returns_pure.mp hr
      exact ⟨⟨ctx.notices, rfl⟩, .inr (.inl ⟨fields, by simpa using hn, rfl⟩)⟩
    · have records : (t.project h.names).records ≠ [] := by simpa using hn
      obtain ⟨c, ctx₁, hc, hr⟩ := returns_bind.mp hr
      obtain ⟨notices, rfl, encoded⟩ := encodeRecords_of_returns hc
      refine ⟨⟨notices, ?_⟩, .inr (.inr ⟨fields, records, c, encoded, ?_⟩)⟩
      · obtain ⟨-, hr⟩ | ⟨-, hr⟩ := returns_ite.mp hr <;> exact (returns_pure.mp hr).2.symm
      · obtain ⟨hb, hr⟩ | ⟨hb, hr⟩ := returns_ite.mp hr
        · rw [if_pos hb]; exact (returns_pure.mp hr).1.symm
        · rw [if_neg hb]; exact (returns_pure.mp hr).1.symm

end Relational

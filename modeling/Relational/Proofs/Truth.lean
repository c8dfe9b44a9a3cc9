import Mathlib.Data.List.Basic

/-!
# Three-valued logic

A comparison with a missing value is neither true nor false but unknown. Conjunctions and
disjunctions of any number of truth values are determined by which values occur.
-/

namespace Relational

/-- A truth value: true, false or unknown. -/
abbrev Truth := Option Bool

namespace Truth

/-- The negation; the unknown stays unknown. -/
def not (t : Truth) : Truth := t.map (!·)

/-- The negation if asked for. -/
def negateIf (negated : Bool) (t : Truth) : Truth := if negated then not t else t

/-- The conjunction: false if some value is false, and true if all are true. -/
def all (ts : List Truth) : Truth :=
  if some false ∈ ts then some false else if none ∈ ts then none else some true

/-- The disjunction: true if some value is true, and false if all are false. -/
def any (ts : List Truth) : Truth :=
  if some true ∈ ts then some true else if none ∈ ts then none else some false

@[simp] theorem not_not (t : Truth) : not (not t) = t := by
  cases t <;> simp [not]

@[simp] theorem negateIf_false (t : Truth) : negateIf false t = t := rfl

@[simp] theorem negateIf_true (t : Truth) : negateIf true t = not t := rfl

theorem negateIf_not (negated : Bool) (t : Truth) :
    negateIf (!negated) t = negateIf negated (not t) := by
  cases negated <;> simp

@[simp] theorem all_nil : all [] = some true := rfl

@[simp] theorem any_nil : any [] = some false := rfl

@[simp] theorem all_singleton (t : Truth) : all [t] = t := by
  rcases t with _ | _ | _ <;> rfl

@[simp] theorem any_singleton (t : Truth) : any [t] = t := by
  rcases t with _ | _ | _ <;> rfl

theorem all_eq_true_iff {ts : List Truth} : all ts = some true ↔ ∀ t ∈ ts, t = some true := by
  unfold all
  constructor
  · intro h
    split at h
    · cases h
    · split at h
      · cases h
      · rintro (_ | _ | _) ht <;> simp_all
  · intro h
    rw [if_neg (fun hf => by cases h _ hf), if_neg (fun hn => by cases h _ hn)]

/-- A conjunction does not depend on the order of its parts, nor on how often each occurs. -/
theorem all_congr {ts us : List Truth} (h : ∀ t, t ∈ ts ↔ t ∈ us) : all ts = all us := by
  simp only [all, h]

/-- True parts of a conjunction can be left out. -/
theorem all_cons_true (ts : List Truth) : all (some true :: ts) = all ts := by
  simp [all]

/-- A conjunction within a conjunction can be written out. -/
theorem all_cons_all (ts us : List Truth) : all (all ts :: us) = all (ts ++ us) := by
  by_cases hf : some false ∈ ts
  · simp [all, hf]
  · by_cases hn : none ∈ ts
    · simp [all, hf, hn]
    · simp [all, hf, hn]

/-- The parts of a conjunction after the first can be taken together. -/
theorem all_cons (t : Truth) (ts : List Truth) : all (t :: ts) = all [t, all ts] := by
  have last : all [t, all ts] = all [all ts, t] := all_congr fun v => by simp [or_comm]
  rw [last, all_cons_all]
  exact all_congr fun v => by simp [or_comm]

/-- A part of a conjunction can be left as it is while the others are replaced. -/
theorem all_cons_congr {ts us : List Truth} (t : Truth) (h : all ts = all us) :
    all (t :: ts) = all (t :: us) := by
  rw [all_cons, h, ← all_cons]

theorem mem_map_not {t : Truth} {ts : List Truth} : t ∈ ts.map not ↔ not t ∈ ts := by
  rw [List.mem_map]
  constructor
  · rintro ⟨u, hu, rfl⟩
    rwa [not_not]
  · intro h
    exact ⟨not t, h, not_not t⟩

/-- A disjunction fails if all its parts fail. -/
theorem not_any (ts : List Truth) : not (any ts) = all (ts.map not) := by
  have hf : some false ∈ ts.map not ↔ some true ∈ ts := mem_map_not
  have hn : none ∈ ts.map not ↔ none ∈ ts := mem_map_not
  simp only [any, all, hf, hn]
  split
  · rfl
  · split <;> rfl

/-- A disjunction within a disjunction can be written out. -/
theorem any_cons_any (ts us : List Truth) : any (any ts :: us) = any (ts ++ us) := by
  rw [← not_not (any (any ts :: us)), not_any, List.map_cons, not_any, all_cons_all,
    ← List.map_append, ← not_any, not_not]

/-- False parts of a disjunction can be left out. -/
theorem any_cons_false (ts : List Truth) : any (some false :: ts) = any ts := by
  simp [any]

end Truth
end Relational

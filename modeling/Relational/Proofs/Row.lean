import Mathlib.Data.List.Dedup
import Relational.Proofs.Truth

/-!
# Rows

A row has a cell under each name. Rows are matched by comparing cells; a missing value matches
nothing. Natural joins are nested loops over matching rows, and `join_assoc` says that they can be
bracketed in any way. Groups are the rows with the same cells under some names, where missing values
count as equal.
-/

namespace Relational

/-- The cells under all names. A missing value is `none`, and so is the cell under a name that the
row does not have. -/
abbrev Row (V : Type) := String → Option V

namespace Row

variable {V : Type}

/-- The cells under some names only. -/
def only (names : List String) (r : Row V) : Row V := fun n => if n ∈ names then r n else none

/-- The cells of one row under some names, and those of another row elsewhere. -/
def merge (names : List String) (r s : Row V) : Row V := fun n => if n ∈ names then r n else s n

/-- The cells under some names, in order. -/
def key (names : List String) (r : Row V) : List (Option V) := names.map r

/-- A row has no cells outside the given names. -/
def Within (names : List String) (r : Row V) : Prop := ∀ n, n ∉ names → r n = none

/-- All names of two lists, those of the first list first. -/
def union (ls rs : List String) : List String := ls ++ rs.filter (· ∉ ls)

/-- The names that both lists have. -/
def shared (ls rs : List String) : List String := ls.filter (· ∈ rs)

@[simp] theorem mem_union {ls rs : List String} {n : String} :
    n ∈ union ls rs ↔ n ∈ ls ∨ n ∈ rs := by
  simp only [union, List.mem_append, List.mem_filter, decide_not, Bool.not_eq_true',
    decide_eq_false_iff_not]
  tauto

@[simp] theorem mem_shared {ls rs : List String} {n : String} :
    n ∈ shared ls rs ↔ n ∈ ls ∧ n ∈ rs := by
  simp [shared]

theorem union_assoc (ls ms rs : List String) :
    union (union ls ms) rs = union ls (union ms rs) := by
  simp only [union, List.append_assoc, List.filter_append, List.filter_filter]
  congr 2
  refine List.filter_congr fun n _ => ?_
  simp only [List.mem_append, List.mem_filter, decide_not, Bool.not_eq_true',
    decide_eq_false_iff_not, Bool.decide_or, Bool.not_or]
  by_cases hl : n ∈ ls <;> simp [hl]

theorem only_of_mem {names : List String} {n : String} (h : n ∈ names) (r : Row V) :
    only names r n = r n := if_pos h

theorem only_of_within {names : List String} {r : Row V} (h : Within names r) :
    only names r = r := by
  funext n
  by_cases hn : n ∈ names
  · exact if_pos hn
  · rw [h n hn]
    exact if_neg hn

theorem within_only (names : List String) (r : Row V) : Within names (only names r) :=
  fun _ hn => if_neg hn

theorem merge_merge (ls ms : List String) (l m r : Row V) :
    merge (union ls ms) (merge ls l m) r = merge ls l (merge ms m r) := by
  funext n
  by_cases hl : n ∈ ls <;> by_cases hm : n ∈ ms <;> simp [merge, hl, hm]

theorem key_eq_key_iff {names : List String} {r s : Row V} :
    key names r = key names s ↔ ∀ n ∈ names, r n = s n := by
  simp [key]

variable [DecidableEq V]

/-- The comparison of two cells, unknown if a value is missing. -/
def equal (a b : Option V) : Truth := a.bind fun x => b.map fun y => decide (x = y)

/-- The comparison of two rows under some names. -/
def matching (names : List String) (r s : Row V) : Truth :=
  Truth.all (names.map fun n => equal (r n) (s n))

theorem equal_eq_true_iff {a b : Option V} :
    equal a b = some true ↔ ∃ v, a = some v ∧ b = some v := by
  cases a <;> cases b <;> simp [equal, eq_comm]

theorem matching_eq_true_iff {names : List String} {r s : Row V} :
    matching names r s = some true ↔ ∀ n ∈ names, ∃ v, r n = some v ∧ s n = some v := by
  simp [matching, Truth.all_eq_true_iff, equal_eq_true_iff]

theorem matching_congr {names : List String} {r r' s s' : Row V}
    (hr : ∀ n ∈ names, r n = r' n) (hs : ∀ n ∈ names, s n = s' n) :
    matching names r s = matching names r' s' := by
  unfold matching
  congr 1
  exact List.map_congr_left fun n hn => by rw [hr n hn, hs n hn]

/-- The natural join of rows with the given names: all pairs that match under the shared names. -/
def join (ls rs : List String) (left right : List (Row V)) : List (Row V) :=
  left.flatMap fun l =>
    (right.filter fun r => matching (shared ls rs) l r = some true).map (merge ls l)

theorem mem_join_iff {ls rs : List String} {left right : List (Row V)} {x : Row V} :
    x ∈ join ls rs left right ↔
      ∃ l ∈ left, ∃ r ∈ right, matching (shared ls rs) l r = some true ∧ merge ls l r = x := by
  simp [join, and_assoc]

/-- A join depends on which names each side has, not on their order. -/
theorem join_congr {ls ls' rs rs' : List String} (hl : ∀ n, n ∈ ls ↔ n ∈ ls')
    (hr : ∀ n, n ∈ rs ↔ n ∈ rs') (left right : List (Row V)) :
    join ls rs left right = join ls' rs' left right := by
  have same (l r : Row V) : matching (shared ls rs) l r = some true ↔
      matching (shared ls' rs') l r = some true := by
    simp only [matching_eq_true_iff, mem_shared, hl, hr]
  have merged : merge ls = (merge ls' : Row V → Row V → Row V) := by
    funext l r n
    simp only [merge, hl]
  simp only [join, same, merged]

/-- Which rows of three match does not depend on which two are matched first. -/
theorem matching_assoc {ls ms rs : List String} {l m r : Row V} :
    matching (shared ls ms) l m = some true ∧
        matching (shared (union ls ms) rs) (merge ls l m) r = some true ↔
      matching (shared ms rs) m r = some true ∧
        matching (shared ls (union ms rs)) l (merge ms m r) = some true := by
  simp only [matching_eq_true_iff, mem_shared, mem_union, merge]
  constructor
  · rintro ⟨hlm, hr⟩
    refine ⟨fun n ⟨hm, hn⟩ => ?_, fun n ⟨hl, hn⟩ => ?_⟩
    · have hr := hr n ⟨.inr hm, hn⟩
      by_cases hl : n ∈ ls
      · obtain ⟨v, hv, hv'⟩ := hlm n ⟨hl, hm⟩
        simp_all
      · simpa [hl] using hr
    · by_cases hm : n ∈ ms
      · simpa [hm] using hlm n ⟨hl, hm⟩
      · simpa [hl, hm] using hr n ⟨.inl hl, hn.resolve_left hm⟩
  · rintro ⟨hmr, hl⟩
    refine ⟨fun n ⟨hn, hm⟩ => by simpa [hm] using hl n ⟨hn, .inl hm⟩, fun n ⟨hn, hr⟩ => ?_⟩
    by_cases hnl : n ∈ ls
    · have hl := hl n ⟨hnl, .inr hr⟩
      by_cases hm : n ∈ ms
      · obtain ⟨v, hv, hv'⟩ := hmr n ⟨hm, hr⟩
        simp_all
      · simpa [hnl, hm] using hl
    · simpa [hnl] using hmr n ⟨hn.resolve_left hnl, hr⟩

/-- The rows that follow from one row of the left and one of the middle, in either bracketing. -/
theorem join_step (ls ms rs : List String) (l m : Row V) (right : List (Row V)) :
    ((((right.filter fun r => matching (shared ms rs) m r = some true).map (merge ms m)).filter
        fun x => matching (shared ls (union ms rs)) l x = some true).map (merge ls l)) =
      if matching (shared ls ms) l m = some true then
        (right.filter fun r => matching (shared (union ls ms) rs) (merge ls l m) r = some true).map
          (merge (union ls ms) (merge ls l m))
      else [] := by
  rw [List.filter_map, List.filter_filter, List.map_map]
  have maps : merge ls l ∘ merge ms m = merge (union ls ms) (merge ls l m) := by
    funext r
    exact (merge_merge ls ms l m r).symm
  rw [maps]
  split
  · rename_i hlm
    congr 1
    refine List.filter_congr fun r _ => ?_
    have both : matching (shared (union ls ms) rs) (merge ls l m) r = some true ↔
        matching (shared ms rs) m r = some true ∧
          matching (shared ls (union ms rs)) l (merge ms m r) = some true := by
      rw [← matching_assoc, and_iff_right hlm]
    simp [both, Bool.and_comm]
  · rename_i hlm
    rw [List.map_eq_nil_iff, List.filter_eq_nil_iff]
    intro r _ hr
    have both : matching (shared ls (union ms rs)) l (merge ms m r) = some true ∧
        matching (shared ms rs) m r = some true := by simpa using hr
    exact hlm (matching_assoc.mpr both.symm).1

/-- Natural joins can be bracketed in any way. -/
theorem join_assoc (ls ms rs : List String) (left middle right : List (Row V)) :
    join (union ls ms) rs (join ls ms left middle) right =
      join ls (union ms rs) left (join ms rs middle right) := by
  unfold join
  rw [List.flatMap_assoc]
  refine List.flatMap_congr fun l _ => ?_
  rw [List.flatMap_map, List.filter_flatMap, List.map_flatMap]
  induction middle with
  | nil => rfl
  | cons m middle ih =>
    rw [List.flatMap_cons, ← ih, join_step, List.filter_cons]
    by_cases hlm : matching (shared ls ms) l m = some true
    · simp [hlm]
    · simp [hlm]

/-- The rows that have the same cells under some names, one group for each choice of cells. -/
def groups (names : List String) (rows : List (Row V)) : List (List (Row V)) :=
  (rows.map (key names)).dedup.map fun k => rows.filter fun r => key names r = k

theorem exists_key_of_mem_groups {names : List String} {rows g : List (Row V)}
    (hg : g ∈ groups names rows) : g ≠ [] ∧ ∃ k, g = rows.filter fun r => key names r = k := by
  obtain ⟨k, hk, rfl⟩ := List.mem_map.mp hg
  obtain ⟨r, hr, rfl⟩ := List.mem_map.mp (List.mem_dedup.mp hk)
  exact ⟨List.ne_nil_of_mem (List.mem_filter.mpr ⟨hr, by simp⟩), _, rfl⟩

end Row
end Relational

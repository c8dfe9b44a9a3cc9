import Mathlib.Data.List.Nodup
import Relational.Header.Join
import Relational.Header.Project
import Relational.Proofs.Tuples

/-!
# Attributes of headers

Attributes of a header are found by their output names, which are pairwise different. The attributes
of a join are those of the left header, some of them promoted to keys, and the new ones of the right
header.
-/

namespace Relational

namespace Header

variable {h k m : Header} {a b : Attribute} {name : String}

theorem attributes_of_ofAttributes {as : List Attribute} (hk : ofAttributes as = .ok k) :
    k.attributes = as := by
  unfold ofAttributes at hk
  split at hk
  · cases hk
    rfl
  · cases hk

theorem ofAttributes_self (h : Header) : ofAttributes h.attributes = .ok h := by
  have nodup : firstRepeat? [] (h.attributes.map Attribute.outputName) = none :=
    firstRepeat?_eq_none_iff.mpr ⟨h.nodup, by simp⟩
  unfold ofAttributes
  split
  · rfl
  · rename_i hs
    rw [nodup] at hs
    cases hs

theorem ext_attributes (e : h.attributes = k.attributes) : h = k := by
  cases h
  cases k
  cases e
  rfl

/-- Attributes with the same output name are the same. -/
theorem eq_of_outputName_eq (ha : a ∈ h.attributes) (hb : b ∈ h.attributes)
    (e : a.outputName = b.outputName) : a = b :=
  List.inj_on_of_nodup_map h.nodup ha hb e

theorem find?_eq_some_iff :
    h.find? name = some a ↔ a ∈ h.attributes ∧ a.outputName = name := by
  unfold find?
  constructor
  · intro hf
    exact ⟨List.mem_of_find?_eq_some hf, by simpa using List.find?_some hf⟩
  · rintro ⟨ha, rfl⟩
    cases hf : h.attributes.find? (·.outputName == a.outputName) with
    | none => exact absurd (List.find?_eq_none.mp hf a ha) (by simp)
    | some b =>
      have hb := List.mem_of_find?_eq_some hf
      have e : b.outputName = a.outputName := by simpa using List.find?_some hf
      rw [eq_of_outputName_eq hb ha e]

theorem find?_eq_none_iff : h.find? name = none ↔ name ∉ h.names := by
  simp [find?, names]

theorem mem_names_iff : name ∈ h.names ↔ ∃ a ∈ h.attributes, a.outputName = name :=
  List.mem_map

theorem mem_primaryKey_iff :
    name ∈ h.primaryKey ↔ ∃ a ∈ h.attributes, a.isKey = true ∧ a.outputName = name := by
  simp [primaryKey, and_assoc]

theorem primaryKey_subset_names (h : Header) : h.primaryKey ⊆ h.names :=
  (List.filter_sublist.map Attribute.outputName).subset

theorem nonBlobs_subset_names (h : Header) : h.nonBlobs ⊆ h.names :=
  (List.filter_sublist.map Attribute.outputName).subset

theorem contains_eq_true_iff : h.contains name = true ↔ name ∈ h.names := by
  unfold contains
  cases hf : h.find? name with
  | none => simpa using find?_eq_none_iff.mp hf
  | some a => simpa using mem_names_iff.mpr ⟨a, find?_eq_some_iff.mp hf⟩

theorem hasAliases_eq_false_iff :
    h.hasAliases = false ↔ ∀ a ∈ h.attributes, a.aliasName = "" := by
  simp [hasAliases, Attribute.isAliased]

/-- A header without aliases has nothing to resolve. -/
theorem stripAliases_of_resolved (hr : h.hasAliases = false) : h.stripAliases = h := by
  apply ext_attributes
  show h.attributes.map Attribute.resolve = h.attributes
  conv_rhs => rw [← List.map_id h.attributes]
  refine List.map_congr_left fun a ha => ?_
  simp [Attribute.resolve, hasAliases_eq_false_iff.mp hr a ha]

/-! ### Joins -/

/-- An attribute, promoted to a key if it is one on the other side. -/
def promoted (k : Header) (a : Attribute) : Attribute :=
  if k.primaryKey.contains a.outputName then { a with isKey := true } else a

@[simp] theorem outputName_promoted : (promoted k a).outputName = a.outputName := by
  unfold promoted
  split <;> rfl

@[simp] theorem aliasName_promoted : (promoted k a).aliasName = a.aliasName := by
  unfold promoted
  split <;> rfl

@[simp] theorem name_promoted : (promoted k a).name = a.name := by
  unfold promoted
  split <;> rfl

@[simp] theorem expression_promoted : (promoted k a).expression = a.expression := by
  unfold promoted
  split <;> rfl

theorem isKey_promoted :
    (promoted k a).isKey = true ↔ a.isKey = true ∨ a.outputName ∈ k.primaryKey := by
  unfold promoted
  split <;> simp_all

theorem mem_joinedAttributes_iff :
    a ∈ h.joinedAttributes k ↔
      (∃ b ∈ h.attributes, promoted k b = a) ∨ (a ∈ k.attributes ∧ a.outputName ∉ h.names) := by
  have new : h.contains a.outputName = false ↔ a.outputName ∉ h.names := by
    rw [← contains_eq_true_iff, Bool.not_eq_true]
  simp only [joinedAttributes, List.mem_append, List.mem_map, List.mem_filter, Bool.or_eq_true,
    Bool.and_eq_true, Bool.not_eq_true', new]
  constructor
  · rintro (((⟨b, ⟨hb, -⟩, rfl⟩ | ⟨ha, -, hn⟩) | ⟨ha, -, hr⟩) | ⟨ha, -, hn⟩)
    · exact .inl ⟨b, hb, rfl⟩
    · exact .inr ⟨ha, hn⟩
    · exact .inl ⟨a, ha, by rw [promoted, hr]; rfl⟩
    · exact .inr ⟨ha, hn⟩
  · rintro (⟨b, hb, rfl⟩ | ⟨ha, hn⟩)
    · by_cases hr : k.primaryKey.contains b.outputName = true
      · exact .inl (.inl (.inl ⟨b, ⟨hb, .inr hr⟩, rfl⟩))
      · rw [Bool.not_eq_true] at hr
        have same : promoted k b = b := by rw [promoted, hr]; rfl
        rw [same]
        cases hk : b.isKey with
        | true => exact .inl (.inl (.inl ⟨b, ⟨hb, .inl hk⟩, same⟩))
        | false => exact .inl (.inr ⟨hb, rfl, hr⟩)
    · cases hk : a.isKey with
      | true => exact .inl (.inl (.inr ⟨ha, rfl, hn⟩))
      | false => exact .inr ⟨ha, rfl, hn⟩

theorem attributes_join (hj : h.join k = .ok m) : m.attributes = h.joinedAttributes k := by
  unfold join at hj
  split at hj
  · exact attributes_of_ofAttributes hj
  · cases hj
  · cases hj

theorem mem_attributes_join_iff (hj : h.join k = .ok m) :
    a ∈ m.attributes ↔
      (∃ b ∈ h.attributes, promoted k b = a) ∨ (a ∈ k.attributes ∧ a.outputName ∉ h.names) := by
  rw [attributes_join hj, mem_joinedAttributes_iff]

theorem mem_names_join_iff (hj : h.join k = .ok m) :
    name ∈ m.names ↔ name ∈ h.names ∨ name ∈ k.names := by
  simp only [mem_names_iff, mem_attributes_join_iff hj]
  constructor
  · rintro ⟨_, ⟨b, hb, rfl⟩ | ⟨ha, -⟩, rfl⟩
    · exact .inl ⟨b, hb, by simp⟩
    · exact .inr ⟨_, ha, rfl⟩
  · rintro (⟨b, hb, rfl⟩ | ⟨a, ha, rfl⟩)
    · exact ⟨promoted k b, .inl ⟨b, hb, rfl⟩, by simp⟩
    · by_cases hn : a.outputName ∈ h.names
      · obtain ⟨b, hb, e⟩ := mem_names_iff.mp hn
        exact ⟨promoted k b, .inl ⟨b, hb, rfl⟩, by simpa using e⟩
      · exact ⟨a, .inr ⟨ha, by simpa [mem_names_iff] using hn⟩, rfl⟩

theorem mem_primaryKey_join_iff (hj : h.join k = .ok m) :
    name ∈ m.primaryKey ↔ name ∈ h.primaryKey ∨ name ∈ k.primaryKey := by
  simp only [mem_primaryKey_iff, mem_attributes_join_iff hj]
  constructor
  · rintro ⟨_, ⟨b, hb, rfl⟩ | ⟨ha, -⟩, hk, rfl⟩
    · rcases isKey_promoted.mp hk with hk | hk
      · exact .inl ⟨b, hb, hk, by simp⟩
      · exact .inr (by simpa [mem_primaryKey_iff] using hk)
    · exact .inr ⟨_, ha, hk, rfl⟩
  · rintro (⟨b, hb, hk, rfl⟩ | ⟨a, ha, hk, rfl⟩)
    · exact ⟨promoted k b, .inl ⟨b, hb, rfl⟩, isKey_promoted.mpr (.inl hk), by simp⟩
    · by_cases hn : a.outputName ∈ h.names
      · obtain ⟨b, hb, e⟩ := mem_names_iff.mp hn
        have right : b.outputName ∈ k.primaryKey := mem_primaryKey_iff.mpr ⟨a, ha, hk, e.symm⟩
        exact ⟨promoted k b, .inl ⟨b, hb, rfl⟩, isKey_promoted.mpr (.inr right), by simpa using e⟩
      · exact ⟨a, .inr ⟨ha, by simpa [mem_names_iff] using hn⟩, hk, rfl⟩

/-- The join of headers without aliases has none. -/
theorem hasAliases_join (hj : h.join k = .ok m) (hh : h.hasAliases = false)
    (hk : k.hasAliases = false) : m.hasAliases = false := by
  rw [hasAliases_eq_false_iff] at hh hk ⊢
  intro a ha
  rcases (mem_attributes_join_iff hj).mp ha with ⟨b, hb, rfl⟩ | ⟨ha, -⟩
  · rw [aliasName_promoted]
    exact hh b hb
  · exact hk a ha

end Header
end Relational

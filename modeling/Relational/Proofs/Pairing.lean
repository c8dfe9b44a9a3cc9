import Relational.Proofs.Grammar
import Relational.Proofs.Joins

/-!
# Pairs of tuples

A relation is paired by joining it with itself, where each side has a suffix of its own on the names
of the given attributes. A natural join matches all names that both sides have, so the pairs are the
intended ones only if the names with suffixes meet neither each other nor a name that stays.
`IsSuffixed` says what one side looks like, and `shared_iff` that the two sides share nothing but
the keys without suffixes.
-/

namespace Relational

open Text

/-! ### Names with suffixes -/

/-- The specifications that add a suffix to the names of attributes. -/
def suffixing (suffix : String) (attributes : List String) : List String :=
  attributes.map fun a => a ++ "->" ++ a ++ suffix

/-- What can be added to a name. -/
structure IsSuffix (suffix : String) : Prop where
  filled : suffix ≠ ""
  words : ∀ c ∈ suffix.toList, isWord c = true

theorem isSuffix_one : IsSuffix "1" := ⟨by decide, by simp [isWord]⟩

theorem isSuffix_two : IsSuffix "2" := ⟨by decide, by simp [isWord]⟩

theorem append_one_ne (a b : String) : a ++ "1" ≠ b ++ "2" := by
  intro e
  have last := congrArg (fun s => s.toList.getLast?) e
  simp at last

namespace Spec

theorem IsTarget.isTrimmed {cs : List Char} (h : IsTarget cs) : IsTrimmed cs := by
  have none (c : Char) (hc : c ∈ cs) : isBlank c = false := by
    refine Bool.eq_false_iff.mpr fun blank => ?_
    have word := h.2 c hc
    rw [isWord_eq_false_of_isBlank blank] at word
    cases word
  exact ⟨fun c hc => none c (List.mem_of_head? hc), fun c hc => none c (List.mem_of_getLast? hc)⟩

theorem IsTarget.isPlainName {cs : List Char} (h : IsTarget cs) : isPlainName cs = true := by
  obtain ⟨begins, words⟩ := h
  cases cs with
  | nil => cases begins
  | cons c cs =>
    have start : isNameStart c = true := begins
    have parts : ∀ d ∈ cs, isNamePart d = true := fun d hd => by
      simp [isNamePart, words d (List.mem_cons_of_mem c hd)]
    simpa [Relational.isPlainName, start] using parts

theorem IsTarget.append {cs ds : List Char} (h : IsTarget cs) (words : ∀ c ∈ ds, isWord c = true) :
    IsTarget (cs ++ ds) := by
  refine ⟨?_, fun c hc => (List.mem_append.mp hc).elim (h.2 c) (words c)⟩
  cases cs with
  | nil => cases h.1
  | cons c cs => exact h.1

/-- A name that gets a suffix is read as a rename. -/
theorem parse_suffixing {a suffix : String} (hs : IsSuffix suffix) (name : IsTarget a.toList) :
    parse (a ++ "->" ++ a ++ suffix) = .ok (.rename a (a ++ suffix)) := by
  have blanks : AreBlanks [] := by simp [AreBlanks]
  have nonempty : a.toList ≠ [] := by
    intro e
    have begins := name.1
    rw [e] at begins
    cases begins
  have splits : Splits (a.toList ++ [] ++ arrow ++ [] ++ (a ++ suffix).toList) a.toList [] []
      (a ++ suffix).toList :=
    { text := rfl
      nonempty := nonempty
      trimmed := name.isTrimmed
      before := blanks
      after := blanks
      target := by
        rw [String.toList_append]
        exact name.append hs.words }
  have text : a ++ "->" ++ a ++ suffix =
      String.ofList ([] ++ (a.toList ++ [] ++ arrow ++ [] ++ (a ++ suffix).toList) ++ []) := by
    simp [String.ext_iff, arrow]
  rw [text, splits.parse_eq blanks blanks, withTarget, if_pos name.isPlainName,
    String.ofList_toList, String.ofList_toList]

section Renames

variable {suffix : String} {attributes : List String}

/-- The renames that add a suffix to the names of attributes. -/
def renames (suffix : String) (attributes : List String) : List Spec :=
  attributes.map fun a => .rename a (a ++ suffix)

theorem forall₂_parse_suffixing (hs : IsSuffix suffix)
    (names : ∀ a ∈ attributes, IsTarget a.toList) :
    List.Forall₂ (fun text spec => parse text = .ok spec) (suffixing suffix attributes)
      (renames suffix attributes) := by
  rw [suffixing, renames, List.forall₂_map_left_iff, List.forall₂_map_right_iff,
    List.forall₂_same]
  exact fun a ha => parse_suffixing hs (names a ha)

theorem keeps_renames : keeps (renames suffix attributes) =
    fun a => a.isKey || decide (a.outputName ∈ attributes) := by
  funext a
  simp [keeps, renames, mentions, Function.comp_def, List.any_beq']

/-- An attribute may be listed more than once. -/
theorem filterMap_newName?_renames (name : String) :
    (renames suffix attributes).filterMap (newName? name) =
      List.replicate (attributes.count name) (name ++ suffix) := by
  induction attributes with
  | nil => rfl
  | cons a rest ih =>
    rw [renames, List.map_cons, List.filterMap_cons, newName?]
    by_cases e : a = name
    · subst e
      rw [if_pos rfl, List.count_cons_self, List.replicate_succ]
      exact congrArg _ ih
    · rw [if_neg e, List.count_cons_of_ne e]
      exact ih

theorem renamed_renames (a : Attribute) :
    renamed (renames suffix attributes) a =
      if a.outputName ∈ attributes then { a with aliasName := a.outputName ++ suffix } else a := by
  rw [renamed, filterMap_newName?_renames, List.getLast?_replicate]
  by_cases listed : a.outputName ∈ attributes
  · rw [if_neg (List.count_pos_iff.mpr listed).ne', if_pos listed]
  · rw [if_pos (List.count_eq_zero.mpr listed), if_neg listed]

theorem computed?_renames : (renames suffix attributes).filterMap computed? = [] := by
  simp [renames, computed?]

/-- A rename by a suffix fits where its target is new. -/
theorem fits_renames_iff {h : Header} (hs : IsSuffix suffix)
    (listed : ∀ a ∈ attributes, a ∈ h.names) :
    (∀ spec ∈ renames suffix attributes, spec.Fits h) ↔
      ∀ a ∈ attributes, a ++ suffix ∉ h.names := by
  simp only [renames, List.forall_mem_map]
  refine forall₂_congr fun a ha => ?_
  simp [Fits, hs.filled, listed a ha]

end Renames

end Spec

/-! ### One side -/

/-- An attribute under its name with a suffix if it is listed, as an enclosing query knows it. -/
def Attribute.suffixed (suffix : String) (attributes : List String) (a : Attribute) : Attribute :=
  if a.outputName ∈ attributes then { a with aliasName := a.outputName ++ suffix }.resolve else a

namespace Attribute

variable {suffix : String} {attributes : List String} {a : Attribute}

theorem suffixed_of_not_mem (other : a.outputName ∉ attributes) :
    a.suffixed suffix attributes = a :=
  if_neg other

theorem outputName_suffixed_of_mem (hs : IsSuffix suffix) (listed : a.outputName ∈ attributes) :
    (a.suffixed suffix attributes).outputName = a.outputName ++ suffix := by
  rw [suffixed, if_pos listed, outputName_resolve]
  exact if_neg (by simp [hs.filled])

@[simp] theorem isKey_suffixed : (a.suffixed suffix attributes).isKey = a.isKey := by
  unfold suffixed
  split <;> simp

end Attribute

namespace Header

variable {h k k₁ k₂ m : Header} {suffix s₁ s₂ name : String} {attributes : List String}
  {a b : Attribute}

/-- A header has the keys and the listed attributes of another one, the listed ones under names with
a suffix that the other one does not have. -/
structure IsSuffixed (h : Header) (suffix : String) (attributes : List String) (k : Header) :
    Prop where
  attributes_eq : k.attributes =
    (h.attributes.filter fun a => a.isKey || decide (a.outputName ∈ attributes)).map
      (Attribute.suffixed suffix attributes)
  new : ∀ a ∈ attributes, a ++ suffix ∉ h.names

theorem IsSuffixed.mem_attributes_iff (hk : h.IsSuffixed suffix attributes k) :
    b ∈ k.attributes ↔ ∃ a ∈ h.attributes, (a.isKey = true ∨ a.outputName ∈ attributes) ∧
      a.suffixed suffix attributes = b := by
  simp [hk.attributes_eq, and_assoc]

/-- Different attributes have different names with suffixes. -/
theorem eq_of_suffixed_eq (hs : IsSuffix suffix) (new : ∀ a ∈ attributes, a ++ suffix ∉ h.names)
    (ha : a ∈ h.attributes) (hb : b ∈ h.attributes)
    (e : (a.suffixed suffix attributes).outputName = (b.suffixed suffix attributes).outputName) :
    a = b := by
  apply eq_of_outputName_eq ha hb
  by_cases la : a.outputName ∈ attributes <;> by_cases lb : b.outputName ∈ attributes
  · rw [Attribute.outputName_suffixed_of_mem hs la,
      Attribute.outputName_suffixed_of_mem hs lb] at e
    exact (String.append_left_inj suffix).mp e
  · rw [Attribute.outputName_suffixed_of_mem hs la, Attribute.suffixed_of_not_mem lb] at e
    exact absurd (mem_names_iff.mpr ⟨b, hb, e.symm⟩) (new _ la)
  · rw [Attribute.suffixed_of_not_mem la, Attribute.outputName_suffixed_of_mem hs lb] at e
    exact absurd (mem_names_iff.mpr ⟨a, ha, e⟩) (new _ lb)
  · rwa [Attribute.suffixed_of_not_mem la, Attribute.suffixed_of_not_mem lb] at e

theorem exists_isSuffixed_iff (hs : IsSuffix suffix) :
    (∃ k, h.IsSuffixed suffix attributes k) ↔ ∀ a ∈ attributes, a ++ suffix ∉ h.names := by
  constructor
  · rintro ⟨k, hk⟩
    exact hk.new
  · intro new
    refine ⟨⟨_, ?_⟩, rfl, new⟩
    rw [List.map_map]
    refine ((List.Nodup.of_map _ h.nodup).filter _).map_on fun a ha b hb e => ?_
    exact eq_of_suffixed_eq hs new (List.mem_of_mem_filter ha) (List.mem_of_mem_filter hb) e

/-- A projection whose specifications can be read. -/
theorem project_eq_ok_iff_of_parsed {texts : List String} {specs : List Spec}
    (parsed : List.Forall₂ (fun text spec => Spec.parse text = .ok spec) texts specs) :
    h.project texts = .ok k ↔
      (∀ spec ∈ specs, spec.Fits h) ∧ k.attributes = h.selected specs := by
  rw [project_eq_ok_iff]
  constructor
  · rintro ⟨specs', parsed', fits, e⟩
    rw [← Spec.readAll_eq parsed', Spec.readAll_eq parsed] at fits e
    exact ⟨fits, e⟩
  · rintro ⟨fits, e⟩
    exact ⟨specs, parsed, fits, e⟩

theorem resolve_selected_renames (resolved : h.hasAliases = false) (suffix : String)
    (attributes : List String) :
    (h.selected (Spec.renames suffix attributes)).map Attribute.resolve =
      (h.attributes.filter fun a => a.isKey || decide (a.outputName ∈ attributes)).map
        (Attribute.suffixed suffix attributes) := by
  rw [selected, Spec.computed?_renames, List.append_nil, List.map_map,
    Spec.keeps_renames]
  refine List.map_congr_left fun a ha => ?_
  have unaliased := hasAliases_eq_false_iff.mp resolved a (List.mem_of_mem_filter ha)
  rw [Function.comp_apply, Spec.renamed_renames, Attribute.suffixed]
  split
  · rfl
  · exact if_pos unaliased

/-- The projection that adds a suffix to the names of attributes, once its aliases are resolved. -/
theorem exists_project_suffixing_iff (hs : IsSuffix suffix) (resolved : h.hasAliases = false)
    (listed : ∀ a ∈ attributes, a ∈ h.names ∧ Spec.IsTarget a.toList) :
    (∃ raw, h.project (suffixing suffix attributes) = .ok raw ∧ raw.stripAliases = k) ↔
      h.IsSuffixed suffix attributes k := by
  have parsed := Spec.forall₂_parse_suffixing hs fun a ha => (listed a ha).2
  have fits := Spec.fits_renames_iff hs fun a ha => (listed a ha).1
  simp only [project_eq_ok_iff_of_parsed parsed, fits]
  have resolves := resolve_selected_renames resolved suffix attributes
  constructor
  · rintro ⟨raw, ⟨new, e⟩, rfl⟩
    refine ⟨?_, new⟩
    rw [← resolves, ← e]
    rfl
  · rintro ⟨e, new⟩
    have nodup : ((h.selected (Spec.renames suffix attributes)).map
        Attribute.outputName).Nodup := by
      have names := k.nodup
      rw [e, ← resolves, List.map_map] at names
      simpa [Function.comp_def] using names
    refine ⟨⟨_, nodup⟩, ⟨new, rfl⟩, ext_attributes ?_⟩
    rw [e, ← resolves]
    rfl

section Sides

variable (hs : IsSuffix suffix) (hk : h.IsSuffixed suffix attributes k)
include hk

/-- The attributes of a side are keys without a suffix and listed attributes with it. -/
theorem IsSuffixed.exists_iff {p : Attribute → Prop} :
    (∃ b ∈ k.attributes, p b) ↔
      (∃ a ∈ h.attributes, a.isKey = true ∧ a.outputName ∉ attributes ∧ p a) ∨
        ∃ a ∈ h.attributes, a.outputName ∈ attributes ∧ p (a.suffixed suffix attributes) := by
  simp only [hk.mem_attributes_iff]
  constructor
  · rintro ⟨_, ⟨a, ha, kept, rfl⟩, hp⟩
    by_cases listed : a.outputName ∈ attributes
    · exact .inr ⟨a, ha, listed, hp⟩
    · rw [Attribute.suffixed_of_not_mem listed] at hp
      exact .inl ⟨a, ha, kept.resolve_right listed, listed, hp⟩
  · rintro (⟨a, ha, key, other, hp⟩ | ⟨a, ha, listed, hp⟩)
    · exact ⟨a, ⟨a, ha, .inl key, Attribute.suffixed_of_not_mem other⟩, hp⟩
    · exact ⟨_, ⟨a, ha, .inr listed, rfl⟩, hp⟩

include hs

theorem IsSuffixed.mem_names_iff (listed : ∀ a ∈ attributes, a ∈ h.names) :
    name ∈ k.names ↔
      (name ∈ h.primaryKey ∧ name ∉ attributes) ∨ ∃ a ∈ attributes, name = a ++ suffix := by
  rw [Header.mem_names_iff, hk.exists_iff, mem_primaryKey_iff]
  refine or_congr ?_ ?_
  · constructor
    · rintro ⟨a, ha, key, other, rfl⟩
      exact ⟨⟨a, ha, key, rfl⟩, other⟩
    · rintro ⟨⟨a, ha, key, rfl⟩, other⟩
      exact ⟨a, ha, key, other, rfl⟩
  · constructor
    · rintro ⟨a, -, la, rfl⟩
      exact ⟨_, la, Attribute.outputName_suffixed_of_mem hs la⟩
    · rintro ⟨_, la, rfl⟩
      obtain ⟨a, ha, rfl⟩ := Header.mem_names_iff.mp (listed _ la)
      exact ⟨a, ha, la, Attribute.outputName_suffixed_of_mem hs la⟩

theorem IsSuffixed.mem_primaryKey_iff :
    name ∈ k.primaryKey ↔
      (name ∈ h.primaryKey ∧ name ∉ attributes) ∨
        ∃ a ∈ attributes, a ∈ h.primaryKey ∧ name = a ++ suffix := by
  rw [Header.mem_primaryKey_iff, hk.exists_iff, Header.mem_primaryKey_iff]
  refine or_congr ?_ ?_
  · constructor
    · rintro ⟨a, ha, -, other, key, rfl⟩
      exact ⟨⟨a, ha, key, rfl⟩, other⟩
    · rintro ⟨⟨a, ha, key, rfl⟩, other⟩
      exact ⟨a, ha, key, other, key, rfl⟩
  · constructor
    · rintro ⟨a, ha, la, key, rfl⟩
      rw [Attribute.isKey_suffixed] at key
      exact ⟨_, la, Header.mem_primaryKey_iff.mpr ⟨a, ha, key, rfl⟩,
        Attribute.outputName_suffixed_of_mem hs la⟩
    · rintro ⟨_, la, keys, rfl⟩
      obtain ⟨a, ha, key, rfl⟩ := Header.mem_primaryKey_iff.mp keys
      refine ⟨a, ha, la, ?_, Attribute.outputName_suffixed_of_mem hs la⟩
      rw [Attribute.isKey_suffixed]
      exact key

end Sides

/-! ### Both sides -/

section Both

variable (hs₁ : IsSuffix s₁) (hs₂ : IsSuffix s₂) (apart : ∀ a b : String, a ++ s₁ ≠ b ++ s₂)
  (h₁ : h.IsSuffixed s₁ attributes k₁) (h₂ : h.IsSuffixed s₂ attributes k₂)
include hs₁ hs₂ apart h₁ h₂

/-- The sides share the keys without suffixes, and they have the same attributes for them. -/
theorem shared_iff {p : Attribute → Attribute → Prop} :
    (∃ b₁ ∈ k₁.attributes, ∃ b₂ ∈ k₂.attributes, b₁.outputName = b₂.outputName ∧ p b₁ b₂) ↔
      ∃ a ∈ h.attributes, a.isKey = true ∧ a.outputName ∉ attributes ∧ p a a := by
  simp only [h₁.exists_iff, h₂.exists_iff]
  constructor
  · rintro (⟨a, ha, key, other, ⟨b, hb, -, -, e, hp⟩ | ⟨b, hb, lb, e, hp⟩⟩ |
      ⟨a, ha, la, ⟨b, hb, -, -, e, hp⟩ | ⟨b, hb, lb, e, hp⟩⟩)
    · cases eq_of_outputName_eq ha hb e
      exact ⟨a, ha, key, other, hp⟩
    -- A name with a suffix is no name of the header, and none with another suffix.
    · rw [Attribute.outputName_suffixed_of_mem hs₂ lb] at e
      exact absurd (mem_names_iff.mpr ⟨a, ha, e⟩) (h₂.new _ lb)
    · rw [Attribute.outputName_suffixed_of_mem hs₁ la] at e
      exact absurd (mem_names_iff.mpr ⟨b, hb, e.symm⟩) (h₁.new _ la)
    · rw [Attribute.outputName_suffixed_of_mem hs₁ la,
        Attribute.outputName_suffixed_of_mem hs₂ lb] at e
      exact absurd e (apart _ _)
  · rintro ⟨a, ha, key, other, hp⟩
    exact .inl ⟨a, ha, key, other, .inl ⟨a, ha, key, other, rfl, hp⟩⟩

theorem exists_join_suffixed_iff : (∃ m, k₁.join k₂ = .ok m) ↔
    ∀ a ∈ h.attributes, a.isKey = true → a.outputName ∉ attributes → a.isBlob = false := by
  have shared {p : Attribute → Attribute → Prop} := shared_iff hs₁ hs₂ apart h₁ h₂ (p := p)
  have same : ¬ k₁.Clashes k₂ := by
    rintro clash
    obtain ⟨a, -, -, -, -, -, differ⟩ := shared.mp clash
    exact differ rfl
  rw [exists_join_iff, SharesBlob, shared, and_iff_left same]
  simp

/-- The sides share the keys without suffixes, in their order. -/
theorem common_suffixed : k₁.common k₂ = h.primaryKey.filter (· ∉ attributes) := by
  rw [common, names, h₁.attributes_eq, List.map_map, List.filter_map, List.filter_filter,
    primaryKey, List.filter_map, List.filter_filter]
  have filters : ∀ a ∈ h.attributes,
      ((k₂.contains ∘ Attribute.outputName ∘ Attribute.suffixed s₁ attributes) a &&
        (a.isKey || decide (a.outputName ∈ attributes))) =
      (((fun name => decide (name ∉ attributes)) ∘ Attribute.outputName) a && a.isKey) := by
    intro a ha
    rw [Bool.eq_iff_iff]
    simp only [Function.comp_apply, Bool.and_eq_true, Bool.or_eq_true, contains_eq_true_iff,
      decide_eq_true_iff]
    constructor
    · rintro ⟨found, kept⟩
      obtain ⟨b, hb, e⟩ := mem_names_iff.mp found
      have both : ∃ b₁ ∈ k₁.attributes, ∃ b₂ ∈ k₂.attributes, b₁.outputName = b₂.outputName ∧
          b₁.outputName = (a.suffixed s₁ attributes).outputName :=
        ⟨_, h₁.mem_attributes_iff.mpr ⟨a, ha, kept, rfl⟩, b, hb, e.symm, rfl⟩
      obtain ⟨c, hc, key, other, e⟩ := (shared_iff hs₁ hs₂ apart h₁ h₂).mp both
      have suffixed : c.suffixed s₁ attributes = c := Attribute.suffixed_of_not_mem other
      rw [← suffixed] at e
      cases eq_of_suffixed_eq hs₁ h₁.new hc ha e
      exact ⟨other, key⟩
    · rintro ⟨other, key⟩
      rw [Attribute.suffixed_of_not_mem other]
      refine ⟨mem_names_iff.mpr ⟨a, ?_, rfl⟩, .inl key⟩
      exact h₂.mem_attributes_iff.mpr ⟨a, ha, .inl key, Attribute.suffixed_of_not_mem other⟩
  rw [List.filter_congr filters]
  refine List.map_congr_left fun a ha => ?_
  have other := (Bool.and_eq_true_iff.mp (List.mem_filter.mp ha).2).1
  rw [Function.comp_apply, Attribute.suffixed_of_not_mem (by simpa using other)]

end Both

/-- A header is that of the pairs of two tuples. The sides share the keys that are not paired. These
keys and both names of each paired attribute are there once, and both names are keys if the
attribute is one. -/
structure IsPairing (h : Header) (attributes : List String) (left right m : Header) : Prop where
  shared : left.common right = h.primaryKey.filter (· ∉ attributes)
  once : ∀ name, m.names.count name =
    if (name ∈ h.primaryKey ∧ name ∉ attributes) ∨
      ∃ a ∈ attributes, name = a ++ "1" ∨ name = a ++ "2" then 1 else 0
  kept : ∀ name ∈ h.primaryKey, name ∉ attributes → name ∈ m.primaryKey
  paired : ∀ a ∈ attributes,
    (a ++ "1" ∈ m.primaryKey ↔ a ∈ h.primaryKey) ∧ (a ++ "2" ∈ m.primaryKey ↔ a ∈ h.primaryKey)

/-- Both sides of a pairing, joined. -/
theorem isPairing_of_join (listed : ∀ a ∈ attributes, a ∈ h.names)
    (h₁ : h.IsSuffixed "1" attributes k₁) (h₂ : h.IsSuffixed "2" attributes k₂)
    (joined : k₁.join k₂ = .ok m) : h.IsPairing attributes k₁ k₂ m := by
  have keys (name : String) : name ∈ m.primaryKey ↔ _ := mem_primaryKey_join_iff joined
  have shared := common_suffixed isSuffix_one isSuffix_two append_one_ne h₁ h₂
  refine ⟨shared, fun name => ?_, fun name key other => ?_, ?_⟩
  · have names : name ∈ m.names ↔ (name ∈ h.primaryKey ∧ name ∉ attributes) ∨
        ∃ a ∈ attributes, name = a ++ "1" ∨ name = a ++ "2" := by
      rw [mem_names_join_iff joined, h₁.mem_names_iff isSuffix_one listed,
        h₂.mem_names_iff isSuffix_two listed, or_or_or_comm, or_self]
      simp only [and_or_left, exists_or]
    exact (List.Nodup.count m.nodup).trans (if_congr names rfl rfl)
  · exact (keys name).mpr (.inl ((h₁.mem_primaryKey_iff isSuffix_one).mpr (.inl ⟨key, other⟩)))
  · intro a ha
    have new₁ : a ++ "1" ∉ h.primaryKey := fun key => h₁.new a ha (h.primaryKey_subset_names key)
    have new₂ : a ++ "2" ∉ h.primaryKey := fun key => h₂.new a ha (h.primaryKey_subset_names key)
    rw [keys, keys, h₁.mem_primaryKey_iff isSuffix_one, h₂.mem_primaryKey_iff isSuffix_two,
      h₁.mem_primaryKey_iff isSuffix_one, h₂.mem_primaryKey_iff isSuffix_two]
    have apart₂ (a b : String) : a ++ "2" ≠ b ++ "1" := (append_one_ne b a).symm
    simp [new₁, new₂, append_one_ne, apart₂, ha]

end Header

/-! ### Pairs of expressions -/

section Compile

variable {e l r : Expr} {h k m : Header} {specs : List String} {mode mode' : Enclosure}
  {ctx ctx' : Context}

/-- The projection of an expression with a known header. -/
theorem resolvedHeader_project_iff (header : e.resolvedHeader mode ctx = .ok h) :
    (Expr.project e specs []).resolvedHeader mode' ctx' = .ok k ↔
      ∃ raw, h.project specs = .ok raw ∧ raw.stripAliases = k := by
  rw [resolvedHeader_eq _ mode' .never ctx' ctx]
  rw [resolvedHeader_eq e mode .aliased ctx ctx] at header
  obtain ⟨c, ctx₁, hc, rfl⟩ := resolvedHeader_eq_ok_iff.mp header
  rw [Header.stripAliases_of_resolved (derives_of_returns hc).wellShaped.2]
  constructor
  · intro projected
    obtain ⟨d, ctx₂, hd, rfl⟩ := resolvedHeader_eq_ok_iff.mp projected
    obtain ⟨c', ctx₁', hc', hd⟩ := returns_bind.mp hd
    cases hc.symm.trans hc'
    obtain ⟨raw, _, lifted, hd⟩ := returns_bind.mp hd
    obtain ⟨hraw, rfl⟩ := returns_lift.mp lifted
    obtain ⟨rfl, rfl⟩ := returns_pure.mp hd
    exact ⟨raw, hraw, rfl⟩
  · rintro ⟨raw, hraw, rfl⟩
    refine resolvedHeader_eq_ok_iff.mpr ⟨⟨raw, c.source⟩, ctx₁, ?_, rfl⟩
    refine returns_bind.mpr ⟨c, ctx₁, hc, returns_bind.mpr ⟨raw, ctx₁, ?_, rfl⟩⟩
    exact returns_lift.mpr ⟨hraw, rfl⟩

/-- Expressions can be joined if their headers can. -/
theorem exists_returns_join (hl : l.resolvedHeader mode ctx = .ok h)
    (hr : r.resolvedHeader mode' ctx' = .ok k) (hj : h.join k = .ok m) (mode₀ : Enclosure)
    (ctx₀ : Context) : ∃ j ctx₁, ((Expr.join l r []).compile mode₀).Returns ctx₀ j ctx₁ := by
  rw [resolvedHeader_eq l mode .derived ctx ctx₀] at hl
  obtain ⟨c, ctx₁, hc, rfl⟩ := resolvedHeader_eq_ok_iff.mp hl
  rw [resolvedHeader_eq r mode' .derived ctx' ctx₁] at hr
  obtain ⟨d, ctx₂, hd, rfl⟩ := resolvedHeader_eq_ok_iff.mp hr
  rw [Header.stripAliases_of_resolved (derives_of_returns hc).wellShaped.2,
    Header.stripAliases_of_resolved (derives_of_returns hd).wellShaped.2] at hj
  have joined : c.join d = .ok ⟨m, .join c.source d.source⟩ := by
    rw [Compiled.join, hj]
    rfl
  have never : ((Expr.join l r []).compile .never).Returns ctx₀ ⟨m, .join c.source d.source⟩
      ctx₂ := by
    refine returns_bind.mpr ⟨c, ctx₁, hc, returns_bind.mpr ⟨d, ctx₂, hd, ?_⟩⟩
    exact returns_bind.mpr ⟨_, ctx₂, returns_lift.mpr ⟨joined, rfl⟩, rfl⟩
  rw [compile_eq]
  obtain ⟨j, ctx₃, hj⟩ := exists_encloseIf _ _ .enclosed ctx₂
  exact ⟨j, ctx₃, returns_bind.mpr ⟨_, ctx₂, never, hj⟩⟩

section Pair

variable {suffix : String} {attributes : List String} {c : Compiled} {ctx₂ : Context}
  (header : e.resolvedHeader mode ctx = .ok h)
  (listed : ∀ a ∈ attributes, a ∈ h.names ∧ Spec.IsTarget a.toList)
include header listed

/-- A side of a pairing, for whoever consumes it. -/
theorem resolvedHeader_suffixing_iff (hs : IsSuffix suffix) (mode' : Enclosure)
    (ctx' : Context) :
    (Expr.project e (suffixing suffix attributes) []).resolvedHeader mode' ctx' = .ok k ↔
      h.IsSuffixed suffix attributes k :=
  (resolvedHeader_project_iff header).trans
    (Header.exists_project_suffixing_iff hs (hasAliases_of_resolvedHeader header) listed)

/-- A side of a pairing, for the join. -/
theorem isSuffixed_of_returns (hs : IsSuffix suffix)
    (hr : ((Expr.project e (suffixing suffix attributes) []).compile .derived).Returns ctx' c
      ctx₂) :
    h.IsSuffixed suffix attributes c.header := by
  refine (resolvedHeader_suffixing_iff header listed hs .derived ctx').mp ?_
  refine resolvedHeader_eq_ok_iff.mpr ⟨c, ctx₂, hr, ?_⟩
  exact Header.stripAliases_of_resolved (derives_of_returns hr).wellShaped.2

/-- A pairing is the join of its sides. -/
theorem returns_pair (hr : ((e.pair attributes).compile mode').Returns ctx' c ctx₂) :
    ∃ left right ctx₁,
      ((Expr.project e (suffixing "1" attributes) []).compile .derived).Returns ctx' left ctx₁ ∧
      ((Expr.project e (suffixing "2" attributes) []).compile .derived).Returns ctx₁ right ctx₂ ∧
      left.header.join right.header = .ok c.header ∧
      h.IsSuffixed "1" attributes left.header ∧ h.IsSuffixed "2" attributes right.header := by
  obtain ⟨left, right, ctx₁, hl, hr, joined⟩ := returns_join hr
  exact ⟨left, right, ctx₁, hl, hr, (join_cases joined).1,
    isSuffixed_of_returns header listed isSuffix_one hl,
    isSuffixed_of_returns header listed isSuffix_two hr⟩

end Pair

/-- **Pairs share the keys that are not paired, and nothing else.** An expression can be paired if
and only if its header has none of the names with suffixes and no blob among the keys that are not
paired. The natural join of the two sides then matches exactly these keys, and it has them and both
names of each paired attribute, each once; both names are keys if the attribute is one. -/
theorem pair_compiles_iff {attributes : List String} (header : e.resolvedHeader mode ctx = .ok h)
    (listed : ∀ a ∈ attributes, a ∈ h.names ∧ Spec.IsTarget a.toList) (mode' : Enclosure)
    (ctx' : Context) :
    ((∃ c ctx₂, ((e.pair attributes).compile mode').Returns ctx' c ctx₂) ↔
        (∀ a ∈ attributes, a ++ "1" ∉ h.names ∧ a ++ "2" ∉ h.names) ∧
          ∀ a ∈ h.attributes, a.isKey = true → a.outputName ∉ attributes → a.isBlob = false) ∧
      ∀ c ctx₂, ((e.pair attributes).compile mode').Returns ctx' c ctx₂ → ∃ left right ctx₁,
        ((Expr.project e (suffixing "1" attributes) []).compile .derived).Returns ctx' left ctx₁ ∧
        ((Expr.project e (suffixing "2" attributes) []).compile .derived).Returns ctx₁ right ctx₂ ∧
        left.header.join right.header = .ok c.header ∧
        h.IsPairing attributes left.header right.header c.header := by
  refine ⟨⟨?_, ?_⟩, ?_⟩
  · rintro ⟨c, ctx₂, paired⟩
    obtain ⟨left, right, -, -, -, joined, h₁, h₂⟩ := returns_pair header listed paired
    refine ⟨fun a ha => ⟨h₁.new a ha, h₂.new a ha⟩, ?_⟩
    exact (Header.exists_join_suffixed_iff isSuffix_one isSuffix_two append_one_ne h₁ h₂).mp
      ⟨_, joined⟩
  · rintro ⟨new, noBlob⟩
    obtain ⟨k₁, h₁⟩ := (Header.exists_isSuffixed_iff isSuffix_one).mpr fun a ha => (new a ha).1
    obtain ⟨k₂, h₂⟩ := (Header.exists_isSuffixed_iff isSuffix_two).mpr fun a ha => (new a ha).2
    obtain ⟨m, joined⟩ :=
      (Header.exists_join_suffixed_iff isSuffix_one isSuffix_two append_one_ne h₁ h₂).mpr noBlob
    have left := (resolvedHeader_suffixing_iff header listed isSuffix_one .derived {}).mpr h₁
    have right := (resolvedHeader_suffixing_iff header listed isSuffix_two .derived {}).mpr h₂
    exact exists_returns_join left right joined mode' ctx'
  · intro c ctx₂ paired
    obtain ⟨left, right, ctx₁, hl, hr, joined, h₁, h₂⟩ := returns_pair header listed paired
    refine ⟨left, right, ctx₁, hl, hr, joined, ?_⟩
    exact Header.isPairing_of_join (fun a ha => (listed a ha).1) h₁ h₂ joined

end Compile

namespace Sample

/-- Two trials of one session, with the attribute listed twice. -/
theorem pair_trials :
    (∀ a ∈ ["trial", "trial"], a ∈ ["id", "trial"] ∧ Spec.IsTarget a.toList) ∧
      ∃ c ctx, (((trials []).pair ["trial", "trial"]).compile .never).Returns {} c ctx ∧
        c.header.names.count "id" = 1 ∧ c.header.names.count "trial" = 0 ∧
        c.header.names.count "trial1" = 1 ∧ "trial2" ∈ c.header.primaryKey := by
  have header : (trials []).resolvedHeader .never {} =
      .ok ⟨[column "id" true, column "trial" true], by decide⟩ := rfl
  have listed : ∀ a ∈ ["trial", "trial"], a ∈ ["id", "trial"] ∧ Spec.IsTarget a.toList := by
    intro a ha
    obtain rfl : a = "trial" := by simpa using ha
    exact ⟨by decide, by decide, List.all_eq_true.mp (by decide +kernel)⟩
  obtain ⟨compiles, pairs⟩ := pair_compiles_iff header listed .never {}
  obtain ⟨c, ctx, returns⟩ := compiles.mpr (by decide)
  obtain ⟨left, right, -, -, -, -, paired⟩ := pairs c ctx returns
  refine ⟨listed, c, ctx, returns, ?_, ?_, ?_, ?_⟩
  · exact paired.once "id"
  · exact paired.once "trial"
  · exact paired.once "trial1"
  · exact (paired.paired "trial" (by decide)).2.mpr (by decide)

end Sample

end Relational

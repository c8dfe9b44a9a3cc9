import Relational.Proofs.Failures
import Relational.Proofs.Projection

/-!
# What projections and joins make of headers

A projection succeeds or not by what its specifications ask, whatever their order, and its
attributes can be told in advance. A join is refused for blobs first, then for types, and for
nothing else; otherwise every name of either header is there once, and keys come before dependents.
-/

namespace Relational

/-! ### Projections -/

namespace Spec

theorem exists_parse_iff {text : String} :
    (∃ spec, parse text = .ok spec) ↔ Text.trim text.toList ≠ [] := by
  unfold parse
  split
  · rename_i blank
    simp [blank]
  · rename_i star
    simp [star]
  · rename_i filled _
    refine iff_of_true ?_ filled
    split
    · exact ⟨_, rfl⟩
    · split <;> exact ⟨_, rfl⟩

/-- All specifications can be read if and only if none of them is blank. -/
theorem forall₂_readAll_iff {texts : List String} :
    List.Forall₂ (fun text spec => parse text = .ok spec) texts (readAll texts) ↔
      ∀ text ∈ texts, Text.trim text.toList ≠ [] := by
  constructor
  · intro parsed text ht
    obtain ⟨spec, -, hp⟩ := exists_of_mem_right (List.Forall₂.flip parsed) ht
    exact exists_parse_iff.mp ⟨spec, hp⟩
  · intro filled
    induction texts with
    | nil => exact .nil
    | cons text rest ih =>
      obtain ⟨first, others⟩ := List.forall_mem_cons.mp filled
      obtain ⟨spec, hp⟩ := exists_parse_iff.mpr first
      have head : readAll (text :: rest) = spec :: readAll rest := by
        simp [readAll, hp, Except.toOption]
      rw [head]
      exact .cons hp (ih others)

@[simp] theorem isKey_renamed (specs : List Spec) (a : Attribute) :
    (renamed specs a).isKey = a.isKey := by
  unfold renamed
  split <;> rfl

end Spec

namespace Header

variable {h k m : Header} {a b : Attribute} {name : String}

/-- What specifications select from a header: the attributes that are kept, in their order and
under their last new names, and then those that are computed. -/
def selected (h : Header) (specs : List Spec) : List Attribute :=
  (h.attributes.filter (Spec.keeps specs)).map (Spec.renamed specs) ++
    specs.filterMap Spec.computed?

/-- Keys are selected whatever the specifications say, and nothing else becomes one. -/
theorem filter_isKey_selected (h : Header) (specs : List Spec) :
    (h.selected specs).filter Attribute.isKey =
      (h.attributes.filter Attribute.isKey).map (Spec.renamed specs) := by
  have computed : (specs.filterMap Spec.computed?).filter Attribute.isKey = [] := by
    refine List.filter_eq_nil_iff.mpr fun a ha => ?_
    obtain ⟨spec, -, hc⟩ := List.mem_filterMap.mp ha
    obtain ⟨expression, target, -, rfl⟩ := Spec.computed?_eq_some_iff.mp hc
    exact Bool.false_ne_true
  have kept : (fun a => (Attribute.isKey ∘ Spec.renamed specs) a && Spec.keeps specs a) =
      Attribute.isKey := by
    funext a
    cases key : a.isKey <;> simp [Spec.keeps, key]
  rw [selected, List.filter_append, computed, List.append_nil, List.filter_map,
    List.filter_filter, kept]

/-- **What a projection selects.** It succeeds if and only if no specification is blank, all of
them fit the header, and the names of what they select differ. The attributes are then those
selected; in particular all keys are there, in order and still keys, and there are no others. -/
theorem project_selects (h : Header) (texts : List String) :
    ((∃ k, h.project texts = .ok k) ↔
        (∀ text ∈ texts, Text.trim text.toList ≠ []) ∧
          (∀ spec ∈ Spec.readAll texts, spec.Fits h) ∧
          ((h.selected (Spec.readAll texts)).map Attribute.outputName).Nodup) ∧
      ∀ k, h.project texts = .ok k →
        k.attributes = h.selected (Spec.readAll texts) ∧
          k.attributes.filter Attribute.isKey =
            (h.attributes.filter Attribute.isKey).map (Spec.renamed (Spec.readAll texts)) := by
  have attributes : ∀ k, h.project texts = .ok k →
      k.attributes = h.selected (Spec.readAll texts) := by
    intro k hk
    obtain ⟨specs, parsed, -, projected⟩ := project_eq_ok_iff.mp hk
    rw [Spec.readAll_eq parsed]
    exact projected
  refine ⟨⟨?_, ?_⟩, fun k hk => ⟨attributes k hk, ?_⟩⟩
  · rintro ⟨k, hk⟩
    obtain ⟨specs, parsed, fits, -⟩ := project_eq_ok_iff.mp hk
    have read := Spec.readAll_eq parsed
    rw [← read] at parsed fits
    exact ⟨Spec.forall₂_readAll_iff.mp parsed, fits, attributes k hk ▸ k.nodup⟩
  · rintro ⟨filled, fits, nodup⟩
    refine ⟨⟨h.selected (Spec.readAll texts), nodup⟩, project_eq_ok_iff.mpr ?_⟩
    exact ⟨Spec.readAll texts, Spec.forall₂_readAll_iff.mpr filled, fits, rfl⟩
  · rw [attributes k hk, filter_isKey_selected]

/-! ### Joins -/

/-- The headers share a name that is a blob on either side. -/
def SharesBlob (h k : Header) : Prop :=
  ∃ a ∈ h.attributes, ∃ b ∈ k.attributes,
    a.outputName = b.outputName ∧ (a.isBlob = true ∨ b.isBlob = true)

/-- The headers share a name that has two types which are known and different. -/
def Clashes (h k : Header) : Prop :=
  ∃ a ∈ h.attributes, ∃ b ∈ k.attributes, a.outputName = b.outputName ∧
    a.type.isKnown = true ∧ b.type.isKnown = true ∧ a.type ≠ b.type

theorem mem_common_iff : name ∈ h.common k ↔
    ∃ a b, h.find? name = some a ∧ k.find? name = some b := by
  simp only [common, List.mem_filter, contains_eq_true_iff, mem_names_iff, find?_eq_some_iff]
  constructor
  · rintro ⟨⟨a, ha⟩, b, hb⟩
    exact ⟨a, b, ha, hb⟩
  · rintro ⟨a, b, ha, hb⟩
    exact ⟨⟨a, ha⟩, b, hb⟩

/-- What holds of two attributes found under one name holds of two with the same name. -/
theorem exists_common_iff {p : Attribute → Attribute → Prop} :
    (∃ name a b, h.find? name = some a ∧ k.find? name = some b ∧ p a b) ↔
      ∃ a ∈ h.attributes, ∃ b ∈ k.attributes, a.outputName = b.outputName ∧ p a b := by
  simp only [find?_eq_some_iff]
  constructor
  · rintro ⟨name, a, b, ⟨ha, rfl⟩, ⟨hb, e⟩, hp⟩
    exact ⟨a, ha, b, hb, e.symm, hp⟩
  · rintro ⟨a, ha, b, hb, e, hp⟩
    exact ⟨a.outputName, a, b, ⟨ha, rfl⟩, ⟨hb, e.symm⟩, hp⟩

theorem commonBlobs_eq_nil_iff : h.commonBlobs k = [] ↔ ¬ h.SharesBlob k := by
  rw [SharesBlob, ← exists_common_iff, commonBlobs, List.filter_eq_nil_iff]
  constructor
  · rintro none ⟨name, a, b, ha, hb, blob⟩
    refine none name (mem_common_iff.mpr ⟨a, b, ha, hb⟩) ?_
    simpa [isBlobNamed, ha, hb] using blob
  · intro none name hn blob
    obtain ⟨a, b, ha, hb⟩ := mem_common_iff.mp hn
    refine none ⟨name, a, b, ha, hb, ?_⟩
    simpa [isBlobNamed, ha, hb] using blob

theorem mismatch?_eq_none_iff : h.mismatch? k = none ↔ ¬ h.Clashes k := by
  rw [Clashes, ← exists_common_iff, mismatch?, List.findSome?_eq_none_iff]
  constructor
  · rintro none ⟨name, a, b, ha, hb, left, right, differ⟩
    have same := none name (mem_common_iff.mpr ⟨a, b, ha, hb⟩)
    simp [ha, hb, left, right, differ] at same
  · intro none name hn
    obtain ⟨a, b, ha, hb⟩ := mem_common_iff.mp hn
    simp only [ha, hb]
    refine if_neg fun clash => none ⟨name, a, b, ha, hb, ?_⟩
    simpa [and_assoc] using clash

theorem join_of_sharesBlob (blob : h.SharesBlob k) :
    h.join k = .error (.blobJoinKey (h.commonBlobs k)) := by
  have some : h.commonBlobs k ≠ [] := fun none => commonBlobs_eq_nil_iff.mp none blob
  unfold join
  split
  · exact absurd ‹_› some
  · exact absurd ‹_› some
  · rfl

theorem join_of_clashes (noBlob : ¬ h.SharesBlob k) (clash : h.Clashes k) :
    ∃ name left right, h.join k = .error (.typeMismatch name left right) := by
  rw [join, commonBlobs_eq_nil_iff.mpr noBlob]
  cases hm : h.mismatch? k with
  | none => exact absurd clash (mismatch?_eq_none_iff.mp hm)
  | some found => exact ⟨found.1, found.2.1, found.2.2, rfl⟩

theorem join_of_compatible (noBlob : ¬ h.SharesBlob k) (noClash : ¬ h.Clashes k) :
    h.join k = .ok ⟨h.joinedAttributes k, nodup_joinedAttributes h k⟩ := by
  rw [join, commonBlobs_eq_nil_iff.mpr noBlob, mismatch?_eq_none_iff.mpr noClash]
  exact ofAttributes_self ⟨_, nodup_joinedAttributes h k⟩

theorem mem_primaryKey_of_mem (ha : a ∈ h.attributes) :
    a.outputName ∈ h.primaryKey ↔ a.isKey = true := by
  rw [mem_primaryKey_iff]
  constructor
  · rintro ⟨b, hb, key, e⟩
    rwa [← eq_of_outputName_eq hb ha e]
  · intro key
    exact ⟨a, ha, key, rfl⟩

/-- A name is that of a key of either header. -/
def isEitherKey (h k : Header) (name : String) : Bool :=
  decide (name ∈ h.primaryKey ∨ name ∈ k.primaryKey)

/-- The attributes of two headers in the order of their join: those of the first header that are
keys of either, the new keys of the second, and the others in the same way. -/
def inJoinOrder (h k : Header) : List Attribute :=
  ((h.attributes.filter fun a => h.isEitherKey k a.outputName).map
      fun a => { a with isKey := true }) ++
    (k.attributes.filter fun b => b.isKey && decide (b.outputName ∉ h.names)) ++
    (h.attributes.filter fun a => !h.isEitherKey k a.outputName) ++
    (k.attributes.filter fun b => !b.isKey && decide (b.outputName ∉ h.names))

theorem joinedAttributes_eq (h k : Header) : h.joinedAttributes k = h.inJoinOrder k := by
  have new (b : Attribute) : (!h.contains b.outputName) = decide (b.outputName ∉ h.names) := by
    simp [← contains_eq_true_iff]
  have key : ∀ a ∈ h.attributes,
      (a.isKey || k.primaryKey.contains a.outputName) = h.isEitherKey k a.outputName := by
    intro a ha
    simp [isEitherKey, mem_primaryKey_of_mem ha]
  have left : h.attributes.filter (fun a => a.isKey || k.primaryKey.contains a.outputName) =
      h.attributes.filter fun a => h.isEitherKey k a.outputName :=
    List.filter_congr key
  have others : h.attributes.filter (fun a => !a.isKey && !k.primaryKey.contains a.outputName) =
      h.attributes.filter fun a => !h.isEitherKey k a.outputName := by
    refine List.filter_congr fun a ha => ?_
    rw [← Bool.not_or, key a ha]
  have promoted : ∀ a ∈ h.attributes.filter (fun a => h.isEitherKey k a.outputName),
      promoted k a = { a with isKey := true } := by
    intro a ha
    obtain ⟨ha, either⟩ := List.mem_filter.mp ha
    unfold promoted
    split
    · rfl
    · rename_i noRight
      rw [← key a ha, Bool.eq_false_iff.mpr noRight, Bool.or_false] at either
      cases a
      cases either
      rfl
  unfold joinedAttributes inJoinOrder
  simp only [new, left, others]
  rw [← List.map_congr_left promoted]
  rfl

/-- What the join of two headers consists of. -/
structure IsJoin (h k m : Header) : Prop where
  /-- Every name of either header is there once. -/
  once : ∀ name, m.names.count name = if name ∈ h.names ∨ name ∈ k.names then 1 else 0
  /-- The keys are those of both headers. -/
  isKey : ∀ a ∈ m.attributes,
    a.isKey = true ↔ a.outputName ∈ h.primaryKey ∨ a.outputName ∈ k.primaryKey
  /-- Attributes of the first header are taken over, except that they may become keys. -/
  left : ∀ b ∈ h.attributes, ∃ a ∈ m.attributes, a = { b with isKey := a.isKey }
  order : m.attributes = h.inJoinOrder k
  keysFirst : ∃ keys dependents, m.attributes = keys ++ dependents ∧
    (∀ a ∈ keys, a.isKey = true) ∧ ∀ a ∈ dependents, a.isKey = false

theorem isKey_of_mem_join (hj : h.join k = .ok m) (ha : a ∈ m.attributes) :
    a.isKey = true ↔ a.outputName ∈ h.primaryKey ∨ a.outputName ∈ k.primaryKey := by
  rcases (mem_attributes_join_iff hj).mp ha with ⟨b, hb, rfl⟩ | ⟨ha, new⟩
  · rw [isKey_promoted, outputName_promoted, mem_primaryKey_of_mem hb]
  · rw [mem_primaryKey_of_mem ha]
    refine (or_iff_right fun left => new ?_).symm
    exact h.primaryKey_subset_names left

theorem isJoin_of_join (hj : h.join k = .ok m) : h.IsJoin k m where
  once name := by
    split
    · rename_i known
      exact List.count_eq_one_of_mem m.nodup ((mem_names_join_iff hj).mpr known)
    · rename_i unknown
      exact List.count_eq_zero_of_not_mem fun hn => unknown ((mem_names_join_iff hj).mp hn)
  isKey _ ha := isKey_of_mem_join hj ha
  left b hb := by
    refine ⟨promoted k b, (mem_attributes_join_iff hj).mpr (.inl ⟨b, hb, rfl⟩), ?_⟩
    unfold promoted
    split <;> rfl
  order := by rw [attributes_join hj, joinedAttributes_eq]
  keysFirst := by
    have order := (attributes_join hj).trans (joinedAttributes_eq h k)
    rw [inJoinOrder, List.append_assoc] at order
    refine ⟨_, _, order, ?_, ?_⟩
    · refine List.forall_mem_append.mpr ⟨fun a ha => ?_, fun a ha => ?_⟩
      · obtain ⟨b, -, rfl⟩ := List.mem_map.mp ha
        rfl
      · exact (Bool.and_eq_true_iff.mp (List.mem_filter.mp ha).2).1
    · refine List.forall_mem_append.mpr ⟨fun a ha => ?_, fun a ha => ?_⟩
      · obtain ⟨ha, neither⟩ := List.mem_filter.mp ha
        have key := mem_primaryKey_of_mem ha
        simp only [isEitherKey, Bool.not_eq_true', decide_eq_false_iff_not, not_or] at neither
        exact Bool.eq_false_iff.mpr fun isKey => neither.1 (key.mpr isKey)
      · simpa using (Bool.and_eq_true_iff.mp (List.mem_filter.mp ha).2).1

/-- **What a join combines.** It is refused for blobs if and only if the headers share one, and
otherwise for types if and only if they clash. In all other cases it succeeds, and no name is
repeated. -/
theorem join_combines (h k : Header) :
    ((∃ names, h.join k = .error (.blobJoinKey names)) ↔ h.SharesBlob k) ∧
      ((∃ name left right, h.join k = .error (.typeMismatch name left right)) ↔
        ¬ h.SharesBlob k ∧ h.Clashes k) ∧
      ((∃ m, h.join k = .ok m) ↔ ¬ h.SharesBlob k ∧ ¬ h.Clashes k) ∧
      (∀ name, h.join k ≠ .error (.duplicateAttribute name)) ∧
      ∀ m, h.join k = .ok m → h.IsJoin k m := by
  refine ⟨?_, ?_, ?_, join_ne_duplicate h k, fun m hj => isJoin_of_join hj⟩
  all_goals
    by_cases blob : h.SharesBlob k
    · simp [join_of_sharesBlob blob, blob]
    · by_cases clash : h.Clashes k
      · obtain ⟨name, left, right, hj⟩ := join_of_clashes blob clash
        simp [hj, blob, clash]
      · simp [join_of_compatible blob clash, blob, clash]

end Header
end Relational

import Relational.Proofs.Header

/-!
# The projected header

A projection reads its specifications from left to right. What they do together does not depend on
the way: each attribute of the header is kept if it is a key or mentioned, it has the target of its
last rename as its alias, and the computed attributes follow in order. `project_eq_ok_iff` says so,
and when a projection succeeds.
-/

namespace Relational

namespace Spec

/-- Whether a specification asks for the attribute with the given name. -/
def mentions (name : String) : Spec → Bool
  | .plain source => source == name
  | .wildcard => true
  | .rename source _ => source == name
  | .compute .. => false

/-- The alias that a specification gives to the attribute with the given name. -/
def newName? (name : String) : Spec → Option String
  | .rename source target => if source = name then some target else none
  | _ => none

/-- The attribute that a specification adds. -/
def computed? : Spec → Option Attribute
  | .compute expression target => some (.compute expression target)
  | _ => none

/-- What a specification needs of a header: its source is there, and its target is new. -/
def Fits (h : Header) : Spec → Prop
  | .wildcard => True
  | .plain source => source ∈ h.names
  | .rename source target => ¬ (target ≠ source ∧ target ∈ h.names) ∧ source ∈ h.names
  | .compute _ target => target ∉ h.names

/-- Whether an attribute is kept by specifications. -/
def keeps (specs : List Spec) (a : Attribute) : Bool :=
  a.isKey || specs.any (mentions a.outputName)

/-- An attribute with the target of its last rename as its alias. -/
def renamed (specs : List Spec) (a : Attribute) : Attribute :=
  match (specs.filterMap (newName? a.outputName)).getLast? with
  | some target => { a with aliasName := target }
  | none => a

theorem newName?_eq_some_iff {spec : Spec} {name target : String} :
    spec.newName? name = some target ↔ spec = .rename name target := by
  cases spec with
  | rename source target' =>
    simp only [newName?, Option.ite_none_right_eq_some, Option.some.injEq, rename.injEq]
  | plain _ => simp [newName?]
  | wildcard => simp [newName?]
  | compute _ _ => simp [newName?]

theorem computed?_eq_some_iff {spec : Spec} {a : Attribute} :
    spec.computed? = some a ↔
      ∃ expression target, spec = .compute expression target ∧ a = .compute expression target := by
  cases spec with
  | compute expression target => simp [computed?, eq_comm]
  | plain _ => simp [computed?]
  | wildcard => simp [computed?]
  | rename _ _ => simp [computed?]

theorem renamed_cases (specs : List Spec) (a : Attribute) :
    renamed specs a = a ∨ ∃ target, (∃ spec ∈ specs, spec.newName? a.outputName = some target) ∧
      renamed specs a = { a with aliasName := target } := by
  unfold renamed
  split
  · rename_i target hl
    exact .inr ⟨target, List.mem_filterMap.mp (List.mem_of_getLast? hl), rfl⟩
  · exact .inl rfl

theorem keeps_append (specs : List Spec) (spec : Spec) (a : Attribute) :
    keeps (specs ++ [spec]) a = (keeps specs a || spec.mentions a.outputName) := by
  simp [keeps, Bool.or_assoc]

theorem renamed_append_of_none {specs : List Spec} {spec : Spec} {a : Attribute}
    (h : spec.newName? a.outputName = none) : renamed (specs ++ [spec]) a = renamed specs a := by
  simp [renamed, h]

theorem renamed_append_of_some {specs : List Spec} {spec : Spec} {a : Attribute} {target : String}
    (h : spec.newName? a.outputName = some target) :
    renamed (specs ++ [spec]) a = { renamed specs a with aliasName := target } := by
  simp only [renamed, List.filterMap_append, List.filterMap_cons, h, List.filterMap_nil,
    List.getLast?_append, List.getLast?_singleton, Option.some_or]
  split <;> rfl

theorem target_ne_nil_of_splitArrow? {cs source target : List Char}
    (h : splitArrow? cs = some (source, target)) : target ≠ [] := by
  unfold splitArrow? at h
  generalize lastWord cs.reverse = word at h
  obtain ⟨last, rest⟩ := word
  dsimp only at h
  split at h
  · rename_i begins
    split at h
    · cases h
      rintro rfl
      cases begins
    · cases h
  · cases h

/-- The targets of renames and computations are never empty. -/
theorem target_ne_of_parse {text source target : String} {spec : Spec}
    (hp : parse text = .ok spec)
    (hs : spec = .rename source target ∨ spec = .compute source target) : target ≠ "" := by
  unfold parse at hp
  split at hp
  · cases hp
  · cases hp
    rcases hs with hs | hs <;> cases hs
  · split at hp
    · cases hp
      rcases hs with hs | hs <;> cases hs
    · rename_i hsplit
      have nonempty := target_ne_nil_of_splitArrow? hsplit
      split at hp <;> cases hp <;> rcases hs with hs | hs <;> cases hs <;>
        simpa [String.ext_iff] using nonempty

/-- The targets of specifications are not empty. -/
def AreNamed (specs : List Spec) : Prop :=
  ∀ source target, .rename source target ∈ specs ∨ .compute source target ∈ specs → target ≠ ""

theorem areNamed_of_parse {texts : List String} {specs : List Spec}
    (parsed : List.Forall₂ (fun text spec => parse text = .ok spec) texts specs) :
    AreNamed specs := by
  rintro source target (hm | hm) <;> obtain ⟨text, -, hp⟩ := exists_of_mem_right parsed hm
  · exact target_ne_of_parse hp (.inl rfl)
  · exact target_ne_of_parse hp (.inr rfl)

/-- The specifications that can be read. -/
def readAll (texts : List String) : List Spec := texts.filterMap fun text => (parse text).toOption

theorem readAll_eq {texts : List String} {specs : List Spec}
    (h : List.Forall₂ (fun text spec => parse text = .ok spec) texts specs) :
    readAll texts = specs := by
  induction h with
  | nil => rfl
  | cons hp _ ih => rw [readAll, List.filterMap_cons, hp]; exact congrArg _ ih

theorem mem_readAll_iff {texts : List String} {spec : Spec} :
    spec ∈ readAll texts ↔ ∃ text ∈ texts, parse text = .ok spec := by
  rw [readAll, List.mem_filterMap]
  refine exists_congr fun text => and_congr_right fun _ => ?_
  cases parse text <;> simp [Except.toOption]

end Spec

namespace Header

namespace Selection

variable {h : Header} {done specs : List Spec} {spec : Spec}

/-- What specifications select together. -/
def after (h : Header) (specs : List Spec) : Selection :=
  ⟨h.attributes.map fun a => ⟨a.outputName, Spec.renamed specs a, Spec.keeps specs a⟩,
    specs.filterMap Spec.computed?⟩

theorem start_eq_after : start h = after h [] := by
  simp [start, after, Spec.renamed, Spec.keeps]

/-- Keeping the attribute that a specification mentions, changed as the specification says. -/
theorem keep_after {source : String} {change : Attribute → Attribute}
    (mentions : ∀ a : Attribute, spec.mentions a.outputName = (source == a.outputName))
    (changes : ∀ a : Attribute, Spec.renamed (done ++ [spec]) a =
      if a.outputName = source then change (Spec.renamed done a) else Spec.renamed done a)
    (computed : spec.computed? = none) :
    (after h done).keep source change = after h (done ++ [spec]) := by
  have slots : ((after h done).keep source change).slots = (after h (done ++ [spec])).slots := by
    simp only [keep, after, List.map_map]
    refine List.map_congr_left fun a _ => ?_
    simp only [Function.comp_apply, Spec.keeps_append, mentions, changes]
    by_cases e : a.outputName = source
    · simp [e]
    · simp [e, Ne.symm e]
  have adds : ((after h done).keep source change).computed =
      (after h (done ++ [spec])).computed := by
    simp [keep, after, computed]
  calc (after h done).keep source change
      = ⟨((after h done).keep source change).slots, ((after h done).keep source change).computed⟩ :=
        rfl
    _ = after h (done ++ [spec]) := by rw [slots, adds]

/-- One more specification adds to what was selected before, provided that it fits. -/
theorem apply_eq_ok_iff {s : Selection} :
    (after h done).apply h spec = .ok s ↔ spec.Fits h ∧ after h (done ++ [spec]) = s := by
  cases spec with
  | wildcard =>
    have unchanged (a : Attribute) : Spec.renamed (done ++ [.wildcard]) a = Spec.renamed done a :=
      Spec.renamed_append_of_none rfl
    have all : (after h done).keepAll = after h (done ++ [.wildcard]) := by
      simp [keepAll, after, Spec.keeps_append, Spec.mentions, Spec.computed?, unchanged]
    simp [apply, Spec.Fits, all]
  | plain source =>
    have kept : (after h done).keep source id = after h (done ++ [.plain source]) := by
      refine keep_after (fun a => rfl) (fun a => ?_) rfl
      rw [Spec.renamed_append_of_none rfl, id, ite_self]
    simp only [apply, Spec.Fits, contains_eq_true_iff, kept]
    split <;> simp [*]
  | rename source target =>
    have kept : (after h done).keep source (fun a => { a with aliasName := target }) =
        after h (done ++ [.rename source target]) := by
      refine keep_after (fun a => rfl) (fun a => ?_) rfl
      by_cases e : a.outputName = source
      · have new : (Spec.rename source target).newName? a.outputName = some target := by
          simp [Spec.newName?, e]
        rw [Spec.renamed_append_of_some new, if_pos e]
      · have old : (Spec.rename source target).newName? a.outputName = none := by
          simp [Spec.newName?, Ne.symm e]
        rw [Spec.renamed_append_of_none old, if_neg e]
    simp only [apply, Spec.Fits, contains_eq_true_iff, kept]
    split
    · simp [*]
    · split <;> simp [*]
  | compute expression target =>
    have unchanged (a : Attribute) :
        Spec.renamed (done ++ [.compute expression target]) a = Spec.renamed done a :=
      Spec.renamed_append_of_none rfl
    have added : (after h done).add expression target =
        after h (done ++ [.compute expression target]) := by
      simp [add, after, Spec.keeps_append, Spec.mentions, Spec.computed?, unchanged]
    simp only [apply, Spec.Fits, contains_eq_true_iff, added]
    split <;> simp [*]

/-- Specifications are applied one by one; all of them must be readable and fit. -/
theorem applyAll_eq_ok_iff {texts : List String} {s : Selection} :
    (after h done).applyAll h texts = .ok s ↔
      ∃ specs, List.Forall₂ (fun text spec => Spec.parse text = .ok spec) texts specs ∧
        (∀ spec ∈ specs, spec.Fits h) ∧ after h (done ++ specs) = s := by
  induction texts generalizing done with
  | nil => simp [applyAll]
  | cons text rest ih =>
    rw [applyAll, bind_eq_ok]
    constructor
    · rintro ⟨spec, hp, hs⟩
      obtain ⟨s', hs', hs⟩ := bind_eq_ok.mp hs
      obtain ⟨fits, rfl⟩ := apply_eq_ok_iff.mp hs'
      obtain ⟨specs, parsed, hf, e⟩ := ih.mp hs
      refine ⟨spec :: specs, .cons hp parsed, ?_, by rw [← e, List.append_assoc]; rfl⟩
      intro spec' hm
      rcases List.mem_cons.mp hm with rfl | hm
      · exact fits
      · exact hf spec' hm
    · rintro ⟨_, parsed, hf, e⟩
      cases parsed with
      | cons hp parsed =>
        rename_i spec specs
        refine ⟨spec, hp, bind_eq_ok.mpr ⟨_, apply_eq_ok_iff.mpr ⟨hf spec (by simp), rfl⟩, ?_⟩⟩
        refine ih.mpr ⟨specs, parsed, fun spec' hm => hf spec' (by simp [hm]), ?_⟩
        rw [← e, List.append_assoc]
        rfl

theorem attributes_after (h : Header) (specs : List Spec) :
    (after h specs).attributes =
      (h.attributes.filter (Spec.keeps specs)).map (Spec.renamed specs) ++
        specs.filterMap Spec.computed? := by
  simp [attributes, after, List.filter_map, Function.comp_def]

end Selection

/-- A projection succeeds if all specifications can be read and fit the header, and the resulting
output names differ; the resulting attributes are those kept, renamed, and those computed. -/
theorem project_eq_ok_iff {h k : Header} {texts : List String} :
    h.project texts = .ok k ↔
      ∃ specs, List.Forall₂ (fun text spec => Spec.parse text = .ok spec) texts specs ∧
        (∀ spec ∈ specs, spec.Fits h) ∧
        k.attributes = (h.attributes.filter (Spec.keeps specs)).map (Spec.renamed specs) ++
          specs.filterMap Spec.computed? := by
  rw [project, Selection.start_eq_after, bind_eq_ok]
  constructor
  · rintro ⟨s, hs, hk⟩
    obtain ⟨specs, parsed, fits, rfl⟩ := Selection.applyAll_eq_ok_iff.mp hs
    refine ⟨specs, parsed, fits, ?_⟩
    rw [attributes_of_ofAttributes hk, List.nil_append, Selection.attributes_after]
  · rintro ⟨specs, parsed, fits, e⟩
    refine ⟨_, Selection.applyAll_eq_ok_iff.mpr ⟨specs, parsed, fits, rfl⟩, ?_⟩
    rw [List.nil_append, Selection.attributes_after, ← e]
    exact ofAttributes_self k

section Project

variable {h k : Header} {texts : List String} (hk : h.project texts = .ok k)
include hk

/-- An attribute of a projection is one of the header, with or without a new alias, or computed. -/
theorem project_cases {a : Attribute} (ha : a ∈ k.attributes) :
    (∃ b ∈ h.attributes, a = b ∨ ∃ target, target ≠ "" ∧ a = { b with aliasName := target }) ∨
      ∃ text ∈ texts, ∃ expression target, Spec.parse text = .ok (.compute expression target) ∧
        target ≠ "" ∧ a = .compute expression target := by
  obtain ⟨specs, parsed, -, e⟩ := project_eq_ok_iff.mp hk
  have named := Spec.areNamed_of_parse parsed
  rw [e, List.mem_append, List.mem_map, List.mem_filterMap] at ha
  rcases ha with ⟨b, hb, rfl⟩ | ⟨spec, hspec, hc⟩
  · refine .inl ⟨b, List.mem_of_mem_filter hb, ?_⟩
    rcases Spec.renamed_cases specs b with e | ⟨target, ⟨spec, hspec, hn⟩, e⟩
    · exact .inl e
    · rw [Spec.newName?_eq_some_iff.mp hn] at hspec
      exact .inr ⟨target, named _ _ (.inl hspec), e⟩
  · obtain ⟨expression, target, rfl, rfl⟩ := Spec.computed?_eq_some_iff.mp hc
    obtain ⟨text, ht, hp⟩ := exists_of_mem_right parsed hspec
    exact .inr ⟨text, ht, expression, target, hp, named _ _ (.inr hspec), rfl⟩

/-- Every key attribute is kept as a key attribute, under its old name or under an alias. -/
theorem exists_key_of_project {b : Attribute} (hb : b ∈ h.attributes) (key : b.isKey = true) :
    ∃ a ∈ k.attributes, a.isKey = true ∧ a.name = b.name ∧ a.expression = b.expression := by
  obtain ⟨specs, -, -, e⟩ := project_eq_ok_iff.mp hk
  refine ⟨Spec.renamed specs b, ?_, ?_⟩
  · rw [e, List.mem_append, List.mem_map]
    exact .inl ⟨b, List.mem_filter.mpr ⟨hb, by simp [Spec.keeps, key]⟩, rfl⟩
  · rcases Spec.renamed_cases specs b with e | ⟨target, -, e⟩
    · rw [e]
      exact ⟨key, rfl, rfl⟩
    · rw [e]
      exact ⟨key, rfl, rfl⟩

theorem primaryKey_project_ne_nil (hne : h.primaryKey ≠ []) : k.primaryKey ≠ [] := by
  obtain ⟨name, hn⟩ := List.exists_mem_of_ne_nil _ hne
  obtain ⟨b, hb, key, -⟩ := mem_primaryKey_iff.mp hn
  obtain ⟨a, ha, key, -⟩ := exists_key_of_project hk hb key
  exact List.ne_nil_of_mem (mem_primaryKey_iff.mpr ⟨a, ha, key, rfl⟩)

end Project

end Header
end Relational

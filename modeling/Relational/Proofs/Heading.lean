import Relational.Proofs.Projection
import Relational.Proofs.Relation
import Relational.Proofs.Shape

/-!
# Compiled expressions have a relation

If an expression can be compiled, then it has a relation, whose header is the compiled one once that
is settled. The header of a relation differs from a compiled one in that it has no aliases and no
expressions, so what has to be seen is that projections and joins do not depend on them.
-/

namespace Relational

namespace Attribute

theorem settle_of_aliasName {a : Attribute} (h : a.aliasName = "") :
    a.settle = { a with expression := none } := by
  simp [settle, resolve, h]

theorem settle_of_plain {a : Attribute} (h : a.aliasName = "") (he : a.expression = none) :
    a.settle = a := by
  rw [settle_of_aliasName h]
  cases a
  cases he
  rfl

@[simp] theorem settle_resolve (a : Attribute) : a.resolve.settle = a.settle := by
  unfold settle resolve
  split <;> simp_all

theorem settle_dropExpression (a : Attribute) :
    Attribute.settle { a with expression := none } = a.settle := by
  unfold settle resolve
  split <;> rfl

@[simp] theorem settle_settle (a : Attribute) : a.settle.settle = a.settle := by
  rw [settle_of_plain (aliasName_settle a) (expression_settle a)]

end Attribute

namespace Header

variable {h k m : Header} {specs : List String}

@[simp] theorem settle_stripAliases (h : Header) : h.stripAliases.settle = h.settle := by
  apply ext_attributes
  simp [settle, stripAliases]

@[simp] theorem settle_settle (h : Header) : h.settle.settle = h.settle := by
  apply ext_attributes
  simp

theorem settle_eq_self_iff :
    h.settle = h ↔ ∀ a ∈ h.attributes, a.aliasName = "" ∧ a.expression = none := by
  constructor
  · intro e a ha
    rw [← e, attributes_settle] at ha
    obtain ⟨b, -, rfl⟩ := List.mem_map.mp ha
    exact ⟨b.aliasName_settle, b.expression_settle⟩
  · intro plain
    apply ext_attributes
    rw [attributes_settle]
    conv_rhs => rw [← List.map_id h.attributes]
    exact List.map_congr_left fun a ha => Attribute.settle_of_plain (plain a ha).1 (plain a ha).2

/-! ### Projections -/

theorem fits_settle {spec : Spec} : spec.Fits h.settle ↔ spec.Fits h := by
  cases spec <;> simp [Spec.Fits]

theorem keeps_settle (parsed : List Spec) (a : Attribute) :
    Spec.keeps parsed a.settle = Spec.keeps parsed a := by
  simp [Spec.keeps]

theorem renamed_settle (parsed : List Spec) {a : Attribute} (ha : a.aliasName = "") :
    Spec.renamed parsed a.settle = { Spec.renamed parsed a with expression := none } := by
  rw [Spec.renamed, Spec.renamed, Attribute.outputName_settle, Attribute.settle_of_aliasName ha]
  split <;> rfl

theorem outputName_renamed_settle (parsed : List Spec) {a : Attribute} (ha : a.aliasName = "") :
    (Spec.renamed parsed a.settle).outputName = (Spec.renamed parsed a).outputName := by
  rw [renamed_settle parsed ha]
  rfl

/-- A projection does not depend on the expressions of a header without aliases. -/
theorem exists_project_settle (hr : h.hasAliases = false) (hk : h.project specs = .ok k) :
    ∃ k', h.settle.project specs = .ok k' ∧ k'.settle = k.settle := by
  obtain ⟨parsed, reads, fits, attributes⟩ := project_eq_ok_iff.mp hk
  have plain : ∀ a ∈ h.attributes.filter (Spec.keeps parsed), a.aliasName = "" := fun a ha =>
    hasAliases_eq_false_iff.mp hr a (List.mem_of_mem_filter ha)
  have kept : h.settle.attributes.filter (Spec.keeps parsed) =
      (h.attributes.filter (Spec.keeps parsed)).map Attribute.settle := by
    simp [settle, List.filter_map, Function.comp_def, keeps_settle]
  let as := (h.settle.attributes.filter (Spec.keeps parsed)).map (Spec.renamed parsed) ++
    parsed.filterMap Spec.computed?
  have names : as.map Attribute.outputName = k.attributes.map Attribute.outputName := by
    simp only [as, attributes, kept, List.map_append, List.map_map]
    congr 1
    exact List.map_congr_left fun a ha => outputName_renamed_settle parsed (plain a ha)
  have settled : as.map Attribute.settle = k.attributes.map Attribute.settle := by
    simp only [as, attributes, kept, List.map_append, List.map_map]
    congr 1
    refine List.map_congr_left fun a ha => ?_
    simp only [Function.comp_apply, renamed_settle parsed (plain a ha)]
    exact Attribute.settle_dropExpression _
  refine ⟨⟨as, names ▸ k.nodup⟩, project_eq_ok_iff.mpr ⟨parsed, reads, ?_, rfl⟩, ?_⟩
  · exact fun spec hs => fits_settle.mpr (fits spec hs)
  · exact ext_attributes settled

/-! ### Joins -/

theorem find?_settle (h : Header) (name : String) :
    h.settle.find? name = (h.find? name).map Attribute.settle := by
  simp [find?, settle, List.find?_map, Function.comp_def]

theorem contains_settle (h : Header) (name : String) :
    h.settle.contains name = h.contains name := by
  simp [contains, find?_settle]

theorem commonBlobs_settle (h k : Header) :
    h.settle.commonBlobs k.settle = h.commonBlobs k := by
  have blob (h : Header) (name : String) : h.settle.isBlobNamed name = h.isBlobNamed name := by
    unfold isBlobNamed
    rw [find?_settle]
    cases h.find? name <;> simp
  simp only [commonBlobs, common, names_settle, blob]
  congr 2
  funext name
  exact contains_settle k name

theorem mismatch?_settle (h k : Header) : h.settle.mismatch? k.settle = h.mismatch? k := by
  have same (h : Header) (name : String) : h.settle.contains name = h.contains name :=
    contains_settle h name
  simp only [mismatch?, common, names_settle]
  rw [show k.settle.contains = k.contains from funext (same k)]
  congr 1
  funext name
  rw [find?_settle, find?_settle]
  cases h.find? name <;> cases k.find? name <;> simp [Attribute.settle]

theorem joinedAttributes_settle (h k : Header) :
    h.settle.joinedAttributes k.settle = (h.joinedAttributes k).map Attribute.settle := by
  simp only [joinedAttributes, primaryKey_settle, contains_settle, attributes_settle,
    List.filter_map, List.map_append, List.map_map, Function.comp_def, Attribute.isKey_settle,
    Attribute.outputName_settle]
  congr 3
  refine List.map_congr_left fun a _ => ?_
  split
  · unfold Attribute.settle Attribute.resolve
    split <;> rfl
  · rfl

/-- A join does not depend on expressions and aliases. -/
theorem join_settle (hj : h.join k = .ok m) : h.settle.join k.settle = .ok m.settle := by
  have attributes := attributes_join hj
  unfold join at hj ⊢
  rw [commonBlobs_settle, mismatch?_settle, joinedAttributes_settle, ← attributes]
  split at hj
  · exact ofAttributes_self m.settle
  · cases hj
  · cases hj

end Header

section Exists

variable {V : Type} [DecidableEq V] (server : Server V) (db : Instance V)

/-- What an outcome compiles has a meaning. -/
def Outcome.Meaningful : Outcome → Prop
  | .opened e c =>
    ∃ rel, e.unrestricted.relation server db = .ok rel ∧ rel.header = c.header.settle
  | .restricted e c | .compiled _ e c =>
    ∃ rel, e.relation server db = .ok rel ∧ rel.header = c.header.settle
  | .condition h _ r _ => ∃ t, r.truth server db h.settle = .ok t
  | .operands h rs _ => ∃ ts, operandTruths server db h.settle rs = .ok ts
  | .conditions h negated rs _ => ∃ ts, restrictionTruths server db h.settle negated rs = .ok ts

variable {server db}

theorem settle_header_of_enclosed {needed : Bool} {kind : AliasKind} {ctx ctx' : Context}
    {c d : Compiled} (h : Enclosed needed kind ctx c d ctx') :
    d.header.settle = c.header.settle := by
  cases h with
  | kept _ => rfl
  | wrapped _ => exact Header.settle_stripAliases c.header

/-- Markers have no condition of their own. -/
theorem ne_marker_of_condition {ctx ctx' : Context} {h : Header} {negated : Bool}
    {r : Restriction} {w : Option Sql.Cond} (first : Derives ctx (.condition h negated r w) ctx') :
    r ≠ .marker true := by
  rintro rfl
  cases first

/-- Everything that is compiled has a meaning. -/
theorem Derives.meaningful {ctx ctx' : Context} {o : Outcome} (h : Derives ctx o ctx') :
    o.Meaningful server db := by
  induction h with
  | table t h rs => exact ⟨Relation.ofTable db t h, restrictBy_nil, by simp [Relation.ofTable]⟩
  | @project _ _ e c specs k rs input header ih =>
    obtain ⟨rel, hrel, same⟩ := ih
    have resolved : c.header.hasAliases = false := input.wellShaped.2
    obtain ⟨k', hk', settled⟩ := Header.exists_project_settle resolved header
    rw [← same] at hk'
    obtain ⟨p, hp⟩ : ∃ p, rel.project server specs = .ok p := ⟨_, bind_eq_ok.mpr ⟨k', hk', rfl⟩⟩
    refine ⟨p, relation_project_eq_ok_iff.mpr ⟨rel, hrel, hp⟩, ?_⟩
    obtain ⟨k'', hk'', hh, -⟩ := Relation.project_eq_ok_iff.mp hp
    cases hk'.symm.trans hk''
    rw [hh, settled]
  | @aggregate _ _ _ e g c d a specs rs input grouping aggregated ihc ihd =>
    obtain ⟨l, hl, same⟩ := ihc
    obtain ⟨r, hr, -⟩ := ihd
    have resolved : c.header.hasAliases = false := input.wellShaped.2
    obtain ⟨header, -, -⟩ := aggregate_cases aggregated
    obtain ⟨k', hk', settled⟩ := Header.exists_project_settle resolved header
    rw [← same] at hk'
    obtain ⟨p, hp⟩ : ∃ p, l.aggregate server r specs = .ok p :=
      ⟨_, bind_eq_ok.mpr ⟨k', hk', rfl⟩⟩
    refine ⟨p, relation_aggregate_eq_ok_iff.mpr ⟨l, r, hl, hr, hp⟩, ?_⟩
    obtain ⟨k'', hk'', hh, -⟩ := Relation.aggregate_eq_ok_iff.mp hp
    cases hk'.symm.trans hk''
    rw [hh, settled]
  | @join _ _ _ l r c d j rs left right joined ihc ihd =>
    obtain ⟨lrel, hl, samel⟩ := ihc
    obtain ⟨rrel, hr, samer⟩ := ihd
    obtain ⟨header, -⟩ := join_cases joined
    have settled := Header.join_settle header
    rw [← samel, ← samer] at settled
    obtain ⟨p, hp⟩ : ∃ p, lrel.join rrel = .ok p := by
      unfold Relation.join
      split
      · rename_i hj
        cases settled.symm.trans hj
      · exact ⟨_, rfl⟩
    refine ⟨p, relation_join_eq_ok_iff.mpr ⟨lrel, rrel, hl, hr, hp⟩, ?_⟩
    exact Except.ok.inj ((Relation.join_eq_ok_iff.mp hp).1.symm.trans settled)
  | @unrestricted _ _ e c opened none ih =>
    obtain ⟨rel, hrel, same⟩ := ih
    exact ⟨rel, relation_eq_ok_iff.mpr ⟨rel, [], hrel, by rw [none]; rfl, rel.restrict_nil⟩, same⟩
  | @restricted _ _ _ _ e c d cs opened some ready conditions ih ihcs =>
    obtain ⟨rel, hrel, same⟩ := ih
    obtain ⟨ts, hts⟩ := ihcs
    rw [settle_header_of_enclosed ready, ← same] at hts
    refine ⟨rel.restrict ts, relation_eq_ok_iff.mpr ⟨rel, ts, hrel, hts, rfl⟩, ?_⟩
    rw [header_filter, settle_header_of_enclosed ready]
    exact same
  | compiled restricted finished ih =>
    obtain ⟨rel, hrel, same⟩ := ih
    exact ⟨rel, hrel, same.trans (settle_header_of_enclosed finished).symm⟩
  | sql h negated text => exact ⟨_, rfl⟩
  | tuples condition => exact ⟨_, rfl⟩
  | semijoin h negated input ready ih =>
    obtain ⟨rel, hrel, -⟩ := ih
    exact ⟨_, bind_eq_ok.mpr ⟨rel, hrel, rfl⟩⟩
  | union negated operands ih =>
    obtain ⟨ts, hts⟩ := ih
    exact ⟨_, bind_eq_ok.mpr ⟨ts, hts, rfl⟩⟩
  | complement negated operand ih =>
    obtain ⟨ts, hts⟩ := ih
    obtain ⟨t, ht, -⟩ := bind_eq_ok.mp hts
    exact ⟨_, bind_eq_ok.mpr ⟨t, ht, rfl⟩⟩
  | noOperands h => exact ⟨_, rfl⟩
  | loneMarker rest ih =>
    obtain ⟨ts, hts⟩ := ih
    exact ⟨_, bind_eq_ok.mpr ⟨_, rfl, bind_eq_ok.mpr ⟨ts, hts, rfl⟩⟩⟩
  | operand first rest ihr ihrs =>
    obtain ⟨t, ht⟩ := ihr
    obtain ⟨ts, hts⟩ := ihrs
    exact ⟨_, bind_eq_ok.mpr ⟨t, ht, bind_eq_ok.mpr ⟨ts, hts, rfl⟩⟩⟩
  | noConditions h negated => exact ⟨_, rfl⟩
  | marker negated rest ih => exact ih
  | @clause _ _ _ h negated r rs w cs first rest ihr ihrs =>
    obtain ⟨t, ht⟩ := ihr
    obtain ⟨ts, hts⟩ := ihrs
    refine ⟨(fun x => (t x).negateIf negated) :: ts, ?_⟩
    rw [restrictionTruths_cons (ne_marker_of_condition first)]
    exact bind_eq_ok.mpr ⟨t, ht, bind_eq_ok.mpr ⟨ts, hts, rfl⟩⟩

end Exists

end Relational

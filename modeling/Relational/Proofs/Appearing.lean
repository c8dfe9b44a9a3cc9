import Relational.Proofs.Exposed
import Relational.Proofs.Subterms

/-!
# What of an expression appears in its statement

A relation that is matched in a restriction appears in the statement if it shares a column with the
restricted one; otherwise it is compiled and dropped. A projection continues the fragment of its
input, so that a `WHERE` clause of the input may still be open when the projection is restricted.
`Expr.appearing` lists the operators that appear, and `Expr.endsInWhere` says which inputs leave a
clause behind.
-/

namespace Relational

open Sql

/-! ### Operators that appear -/

/-- The operators that a heading leads to, if an expression has one. -/
def Expr.underHeading (e : Expr) (f : Header → List Expr) : List Expr :=
  match e.heading with
  | .ok h => f h
  | .error _ => []

/-- Whether headers have a column in common that is no blob. -/
def Header.sharesColumn (h k : Header) : Bool := !(h.nonBlobs.filter (· ∈ k.nonBlobs)).isEmpty

mutual

/-- The operators that appear in the statement of an expression. -/
def Expr.appearing : Expr → List Expr
  | .table t h rs =>
    .table t h rs :: (Expr.table t h rs).underHeading fun k => appearingAll k rs
  | .project e specs rs =>
    .project e specs rs ::
      (e.appearing ++ (Expr.project e specs rs).underHeading fun k => appearingAll k rs)
  | .aggregate e g specs rs =>
    .aggregate e g specs rs :: (e.appearing ++ g.appearing ++
      (Expr.aggregate e g specs rs).underHeading fun k => appearingAll k rs)
  | .join l r rs =>
    .join l r rs :: (l.appearing ++ r.appearing ++
      (Expr.join l r rs).underHeading fun k => appearingAll k rs)
  | .union rs => [.union rs]
  | .negation e => [.negation e]
termination_by structural e => e

/-- The operators that appear in the condition of a restriction on the given header. -/
def Restriction.appearing (h : Header) : Restriction → List Expr
  | .semijoin e => if e.onHeading h.sharesColumn then e.appearing else []
  | .union rs => appearingAll h rs
  | .complement r => r.appearing h
  | .sql _ | .tuples _ | .marker _ => []
termination_by structural r => r

/-- The operators that appear in the conditions of several restrictions. -/
def appearingAll (h : Header) : List Restriction → List Expr
  | [] => []
  | r :: rs => r.appearing h ++ appearingAll h rs
termination_by structural rs => rs

end

/-- The operators that appear in the inputs of an operator. -/
def Expr.appearingInputs : Expr → List Expr
  | .table .. | .union _ | .negation _ => []
  | .project e _ _ => e.appearing
  | .aggregate e g _ _ => e.appearing ++ g.appearing
  | .join l r _ => l.appearing ++ r.appearing

theorem appearing_eq (e : Expr) :
    e.appearing =
      e :: (e.appearingInputs ++ e.underHeading fun k => appearingAll k e.restrictions) := by
  cases e <;> rfl

theorem underHeading_of_eq {e : Expr} {h : Header} (he : e.heading = .ok h)
    (f : Header → List Expr) : e.underHeading f = f h := by
  rw [Expr.underHeading, he]

theorem forall_underHeading {e : Expr} {g : Header → List Expr} {P : Expr → Prop}
    (h : ∀ k, ∀ f ∈ g k, P f) : ∀ f ∈ e.underHeading g, P f := by
  unfold Expr.underHeading
  split
  · exact h _
  · exact List.forall_mem_nil P

section Everywhere

variable {onTable : TableRef → Header → Prop} {onRestriction : Restriction → Prop}

mutual

/-- What holds everywhere in an expression holds everywhere in what appears of it. -/
theorem everywhere_of_appearing {e : Expr} (he : e.Everywhere onTable onRestriction) :
    ∀ f ∈ e.appearing, f.Everywhere onTable onRestriction := by
  match e with
  | .table t h rs =>
    exact List.forall_mem_cons.mpr
      ⟨he, forall_underHeading fun _ => everywhere_of_appearingAll rs he.2⟩
  | .project e specs rs =>
    refine List.forall_mem_cons.mpr ⟨he, List.forall_mem_append.mpr ⟨?_, ?_⟩⟩
    · exact everywhere_of_appearing he.1
    · exact forall_underHeading fun _ => everywhere_of_appearingAll rs he.2
  | .aggregate e g specs rs =>
    refine List.forall_mem_cons.mpr ⟨he, List.forall_mem_append.mpr ⟨?_, ?_⟩⟩
    · exact List.forall_mem_append.mpr
        ⟨everywhere_of_appearing he.1, everywhere_of_appearing he.2.1⟩
    · exact forall_underHeading fun _ => everywhere_of_appearingAll rs he.2.2
  | .join l r rs =>
    refine List.forall_mem_cons.mpr ⟨he, List.forall_mem_append.mpr ⟨?_, ?_⟩⟩
    · exact List.forall_mem_append.mpr
        ⟨everywhere_of_appearing he.1, everywhere_of_appearing he.2.1⟩
    · exact forall_underHeading fun _ => everywhere_of_appearingAll rs he.2.2
  | .union rs => exact List.forall_mem_singleton.mpr he
  | .negation e => exact List.forall_mem_singleton.mpr he
termination_by structural e

theorem everywhere_of_appearing_restriction {h : Header} {r : Restriction}
    (hr : r.Everywhere onTable onRestriction) :
    ∀ f ∈ r.appearing h, f.Everywhere onTable onRestriction := by
  match r with
  | .sql _ => exact List.forall_mem_nil _
  | .tuples _ => exact List.forall_mem_nil _
  | .marker _ => exact List.forall_mem_nil _
  | .semijoin e =>
    rw [Restriction.appearing]
    split
    · exact everywhere_of_appearing hr.2
    · exact List.forall_mem_nil _
  | .union rs => exact everywhere_of_appearingAll rs hr.2
  | .complement r => exact everywhere_of_appearing_restriction (r := r) hr.2
termination_by structural r

theorem everywhere_of_appearingAll {h : Header} (rs : List Restriction)
    (hrs : AreEverywhere onTable onRestriction rs) :
    ∀ f ∈ appearingAll h rs, f.Everywhere onTable onRestriction := by
  match rs with
  | [] => exact List.forall_mem_nil _
  | r :: rs =>
    exact List.forall_mem_append.mpr
      ⟨everywhere_of_appearing_restriction hrs.1, everywhere_of_appearingAll rs hrs.2⟩
termination_by structural rs

end

end Everywhere

/-! ### Restrictions with an effect -/

/-- Whether a restriction on a header comes to a condition; if not, then it holds for all tuples. -/
def Restriction.binds (h : Header) (negated : Bool) : Restriction → Bool
  | .tuples t =>
    if (t.project h.names).fields = [] then negated
    else !negated || !(t.project h.names).records.isEmpty
  | .semijoin e => negated || e.onHeading h.sharesColumn
  | .sql _ | .marker _ | .union _ | .complement _ => true

/-- Whether one of several restrictions comes to a condition. -/
def bindsAny (h : Header) (negated : Bool) : List Restriction → Bool
  | [] => false
  | r :: rs =>
    if r.isMarker then bindsAny h true rs else r.binds h negated || bindsAny h false rs

/-- Conditions are there for restrictions with an effect. -/
def Outcome.Binds : Outcome → Prop
  | .condition h negated r w => w.isSome = r.binds h.settle negated
  | .conditions h negated rs cs => (!cs.isEmpty) = bindsAny h.settle negated rs
  | _ => True

theorem isSome_emptyRestrictor (negated common : Bool) :
    (emptyRestrictor negated common).isSome = (negated != common) := by
  cases negated <;> cases common <;> rfl

theorem isSome_condition (c : Compiled) (h : Header) (negated : Bool) :
    (c.condition h negated).isSome = (negated || h.sharesColumn c.header) := by
  unfold Compiled.condition Header.sharesColumn
  split
  · rename_i none
    simp [none, isSome_emptyRestrictor]
  · rename_i some
    have shared : (h.nonBlobs.filter (· ∈ c.header.nonBlobs)).isEmpty = false :=
      List.isEmpty_eq_false_iff.mpr some
    rw [shared, Bool.not_false, Bool.or_true, Option.isSome_some]

theorem isMarker_of_condition {ctx ctx' : Context} {h : Header} {negated : Bool}
    {r : Restriction} {w : Option Cond} (first : Derives ctx (.condition h negated r w) ctx') :
    r.isMarker = false := by
  cases first <;> rfl

theorem sharesColumn_settle (h k : Header) :
    h.settle.sharesColumn k.settle = h.sharesColumn k := by
  simp [Header.sharesColumn]

/-- Headers that are settled alike share the same columns with others. -/
theorem sharesColumn_of_enclosed {needed : Bool} {kind : AliasKind} {ctx ctx' : Context}
    {c d : Compiled} (h : Header) (ready : Enclosed needed kind ctx c d ctx') :
    h.sharesColumn d.header = h.sharesColumn c.header := by
  rw [← sharesColumn_settle, settle_header_of_enclosed ready, sharesColumn_settle]

theorem Derives.binds {ctx ctx' : Context} {o : Outcome} (h : Derives ctx o ctx') : o.Binds := by
  induction h with
  | sql h negated text => rfl
  | @tuples _ _ h negated t w condition =>
    rw [Outcome.Binds, Restriction.binds, Header.names_settle]
    obtain ⟨-, ⟨none, rfl⟩ | ⟨some, none, rfl⟩ | ⟨some, tuples, c, -, rfl⟩⟩ :=
      TupleSet.condition_cases condition
    · simp [none, isSome_emptyRestrictor]
    · simp [some, none, isSome_emptyRestrictor]
    · simp [some, tuples]
  | @semijoin _ _ _ h negated e c d input ready ih =>
    have heading : e.heading = .ok c.header.settle := input.headed
    rw [Outcome.Binds, isSome_condition, sharesColumn_of_enclosed h ready, Restriction.binds,
      onHeading_of_eq heading, sharesColumn_settle]
  | union negated _ _ => rfl
  | complement negated _ _ => rfl
  | noConditions h negated => rfl
  | marker negated _ ih => exact ih
  | @clause _ _ _ h negated r rs w cs first _ ihw ihcs =>
    have head : w.isSome = r.binds h.settle negated := ihw
    have tail : (!cs.isEmpty) = bindsAny h.settle false rs := ihcs
    show (!(w.toList ++ cs).isEmpty) = bindsAny h.settle negated (r :: rs)
    rw [bindsAny, isMarker_of_condition first, if_neg Bool.false_ne_true, ← head, ← tail]
    cases w <;> rfl
  | _ => trivial

/-! ### Clauses left open -/

namespace Spec

/-- Whether a specification leaves names as they are. -/
def keepsNames : Spec → Bool
  | .plain _ | .wildcard => true
  | .rename .. | .compute .. => false

theorem aliasName_renamed_ne {specs : List Spec} {a : Attribute} {target : String}
    (named : AreNamed specs) (hs : .rename a.outputName target ∈ specs) :
    (renamed specs a).aliasName ≠ "" := by
  have new : target ∈ specs.filterMap (newName? a.outputName) :=
    List.mem_filterMap.mpr ⟨_, hs, newName?_eq_some_iff.mpr rfl⟩
  unfold renamed
  split
  · rename_i last hl
    obtain ⟨spec, hs, hn⟩ := List.mem_filterMap.mp (List.mem_of_getLast? hl)
    rw [newName?_eq_some_iff.mp hn] at hs
    exact named _ _ (.inl hs)
  · rename_i none
    rw [List.getLast?_eq_none_iff.mp none] at new
    cases new

end Spec

/-- A projection has aliases if and only if it renames or computes something. -/
theorem Header.hasAliases_project {h k : Header} {texts : List String}
    (resolved : h.hasAliases = false) (hk : h.project texts = .ok k) :
    k.hasAliases = !(Spec.readAll texts).all Spec.keepsNames := by
  obtain ⟨specs, parsed, fits, attributes⟩ := project_eq_ok_iff.mp hk
  have named := Spec.areNamed_of_parse parsed
  have mem (a : Attribute) : a ∈ k.attributes ↔
      (∃ b, (b ∈ h.attributes ∧ Spec.keeps specs b = true) ∧ Spec.renamed specs b = a) ∨
        ∃ spec ∈ specs, spec.computed? = some a := by
    rw [attributes, List.mem_append, List.mem_map, List.mem_filterMap]
    simp only [List.mem_filter]
  rw [Spec.readAll_eq parsed]
  cases keep : specs.all Spec.keepsNames with
  | true =>
    rw [List.all_eq_true] at keep
    refine hasAliases_eq_false_iff.mpr fun a ha => ?_
    rcases (mem a).mp ha with ⟨b, ⟨hb, -⟩, rfl⟩ | ⟨spec, hs, hc⟩
    · rcases Spec.renamed_cases specs b with e | ⟨target, ⟨spec, hs, hn⟩, -⟩
      · rw [e]
        exact hasAliases_eq_false_iff.mp resolved b hb
      · rw [Spec.newName?_eq_some_iff.mp hn] at hs
        cases keep _ hs
    · obtain ⟨expression, target, rfl, -⟩ := Spec.computed?_eq_some_iff.mp hc
      cases keep _ hs
  | false =>
    rw [List.all_eq_false] at keep
    obtain ⟨spec, hs, changes⟩ := keep
    have aliased {a : Attribute} (ha : a ∈ k.attributes) (hn : a.aliasName ≠ "") :
        k.hasAliases = true :=
      List.any_eq_true.mpr ⟨a, ha, bne_iff_ne.mpr hn⟩
    cases spec with
    | plain _ => exact absurd rfl changes
    | wildcard => exact absurd rfl changes
    | rename source target =>
      obtain ⟨b, hb, rfl⟩ := mem_names_iff.mp (fits _ hs).2
      have kept : Spec.keeps specs b = true := by
        rw [Spec.keeps, Bool.or_eq_true, List.any_eq_true]
        exact .inr ⟨_, hs, beq_self_eq_true _⟩
      exact aliased ((mem _).mpr (.inl ⟨b, ⟨hb, kept⟩, rfl⟩)) (Spec.aliasName_renamed_ne named hs)
    | compute expression target =>
      exact aliased ((mem _).mpr (.inr ⟨_, hs, rfl⟩)) (named _ _ (.inr hs))

/-- Whether the fragment that a projection takes over from an expression ends with a `WHERE`
clause. -/
def Expr.endsInWhere : Expr → Bool
  | .project e specs [] => (Spec.readAll specs).all Spec.keepsNames && e.endsInWhere
  | e => e.onHeading fun h => bindsAny h false e.restrictions

/-- Which fragments end with a `WHERE` clause. -/
def Outcome.Ends : Outcome → Prop
  | .opened (.project e _ _) c => c.source.isFiltered = e.endsInWhere
  | .opened _ c => c.source.isFiltered = false
  | .restricted e c => e.endsInWhere = (!c.header.hasAliases && c.source.isFiltered)
  | .compiled .aliased e c => e.endsInWhere = c.source.isFiltered
  | _ => True

theorem isFiltered_filter {c : Compiled} (h : c.source.isFiltered = false) (cs : List Cond) :
    (c.filter (conjunction cs)).source.isFiltered = !cs.isEmpty := by
  cases cs with
  | nil => exact h
  | cons _ _ => rfl

theorem endsInWhere_of_restricted {e : Expr} (some : e.restrictions ≠ []) :
    e.endsInWhere = e.onHeading fun h => bindsAny h false e.restrictions := by
  unfold Expr.endsInWhere
  split
  · exact absurd rfl some
  · rfl

theorem Derives.ends {ctx ctx' : Context} {o : Outcome} (h : Derives ctx o ctx') : o.Ends := by
  induction h with
  | table t h rs => rfl
  | project rs _ _ ih => exact ih.symm
  | aggregate rs _ _ aggregated _ _ =>
    show Fragment.isFiltered _ = false
    rw [(aggregate_cases aggregated).2.2]
    rfl
  | join rs _ _ joined _ _ =>
    show Fragment.isFiltered _ = false
    rw [(join_cases joined).2]
    rfl
  | @unrestricted _ _ e c opened none ih =>
    have heading : e.heading = .ok c.header.settle := opened.headed
    have nothing : (e.onHeading fun h => bindsAny h false []) = false :=
      onHeading_of_eq heading _
    cases opened with
    | table t h rs =>
      cases none
      exact nothing.trans (Bool.and_false _).symm
    | project rs input header =>
      cases none
      have resolved : _ = false := input.wellShaped.2
      have filtered : Fragment.isFiltered _ = _ := ih
      show (_ && _) = _
      rw [Header.hasAliases_project resolved header, Bool.not_not, filtered]
    | aggregate rs input grouping aggregated =>
      cases none
      rw [Outcome.Ends, (aggregate_cases aggregated).2.1]
      exact nothing
    | join rs left right joined =>
      cases none
      have unfiltered : Fragment.isFiltered _ = false := ih
      rw [Outcome.Ends, unfiltered, Bool.and_false]
      exact nothing
  | @restricted _ _ _ _ e c d cs opened some ready conditions ih ihcs =>
    have heading : e.heading = .ok c.header.settle := opened.headed
    obtain ⟨chain, resolved⟩ := isChain_of_ready opened.wellShaped ready
    have unfiltered : d.source.isFiltered = false := by
      cases ready with
      | kept h => exact (Bool.or_eq_false_iff.mp h).2
      | wrapped _ => rfl
    have binds : (!cs.isEmpty) = bindsAny d.header.settle false e.restrictions := conditions.binds
    rw [Outcome.Ends, header_filter, resolved, isFiltered_filter unfiltered, binds,
      endsInWhere_of_restricted some, onHeading_of_eq heading, settle_header_of_enclosed ready]
    rfl
  | @compiled _ _ _ mode e c d _ finished ih =>
    cases mode with
    | aliased =>
      have ends : e.endsInWhere = (!c.header.hasAliases && c.source.isFiltered) := ih
      cases finished with
      | kept h =>
        have resolved : c.header.hasAliases = false := h
        rw [Outcome.Ends, ends, resolved]
        rfl
      | wrapped h =>
        have aliased : c.header.hasAliases = true := h
        rw [Outcome.Ends, ends, aliased]
        rfl
    | _ => trivial
  | _ => trivial

end Relational

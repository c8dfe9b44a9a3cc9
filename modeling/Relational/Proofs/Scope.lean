import Relational.Proofs.Realization
import Relational.Proofs.Subterms

/-!
# Column references

Every `SELECT` reads columns from what it joins. A statement is scoped if each column that it names,
in a select list, a `GROUP BY` clause, a comparison or on either side of an `IN`, is one of the
columns that are read at that place; if the output names of each `SELECT` differ; and if every
expression has a name. Texts are opaque and do not count.
-/

namespace Relational

namespace Sql

section Scoped

variable (columns : TableRef → List String)

/-- The columns that can be named in a `SELECT` from a fragment. -/
def Fragment.provided : Fragment → List String
  | .table t => columns t
  | .derived items _ _ => items.map Column.outputName
  | .join l r => l.provided ++ r.provided
  | .filter source _ => source.provided
  | .group source _ => source.provided

/-- A select list that names some of the given columns, each output name once, and no expression
without a name. -/
structure Selectable (names : List String) (items : List Column) : Prop where
  visible : ∀ i ∈ items, i.isVisible names = true
  named : ∀ expression aliasName, .computed expression aliasName ∈ items → aliasName ≠ ""
  distinct : (items.map Column.outputName).Nodup

mutual

/-- All references of a fragment resolve, those of its subqueries included. -/
def Fragment.Scoped : Fragment → Prop
  | .table _ => True
  | .derived items source _ => Selectable (source.provided columns) items ∧ source.Scoped
  | .join l r => l.Scoped ∧ r.Scoped
  | .filter source c => c.Scoped (source.provided columns) ∧ source.Scoped
  | .group source names => names ⊆ source.provided columns ∧ source.Scoped
termination_by structural f => f

/-- All references of a condition on the given columns resolve. -/
def Cond.Scoped (names : List String) : Cond → Prop
  | .raw _ | .constant _ => True
  | .isNull field => field ∈ names
  | .equal field _ => field ∈ names
  | .conj cs | .disj cs => AllScoped names cs
  | .paren c | .not c => c.Scoped names
  | .within fields _ source =>
    fields ⊆ names ∧ Selectable (source.provided columns) (fields.map .name) ∧ source.Scoped
termination_by structural c => c

/-- All references of several conditions resolve. -/
def AllScoped (names : List String) : List Cond → Prop
  | [] => True
  | c :: cs => c.Scoped names ∧ AllScoped names cs
termination_by structural cs => cs

end

/-- All references of a statement resolve. -/
def Statement.Scoped (s : Statement) : Prop :=
  Selectable (s.source.provided columns) s.columns ∧ s.source.Scoped columns

variable {columns} {names more : List String}

theorem allScoped_iff {cs : List Cond} :
    AllScoped columns names cs ↔ ∀ c ∈ cs, c.Scoped columns names := by
  induction cs with
  | nil => simp [AllScoped]
  | cons c cs ih => rw [AllScoped, ih, List.forall_mem_cons]

theorem scoped_bracket {negated : Bool} {c : Cond} (h : c.Scoped columns names) :
    (bracket negated c).Scoped columns names := by
  cases negated with
  | false => exact h
  | true => exact h

theorem scoped_of_mem_emptyRestrictor {negated common : Bool} {c : Cond}
    (h : c ∈ emptyRestrictor negated common) : c.Scoped columns names := by
  unfold emptyRestrictor at h
  split at h
  · cases h
  · cases h
    trivial

mutual

/-- More columns do no harm. -/
theorem Cond.Scoped.mono {c : Cond} (h : c.Scoped columns names) (hs : names ⊆ more) :
    c.Scoped columns more :=
  match c with
  | .raw _ | .constant _ => trivial
  | .isNull _ | .equal _ _ => hs h
  | .conj cs => allScoped_mono cs h hs
  | .disj cs => allScoped_mono cs h hs
  | .paren c => Cond.Scoped.mono (c := c) h hs
  | .not c => Cond.Scoped.mono (c := c) h hs
  | .within _ _ _ => ⟨fun _ hf => hs (h.1 hf), h.2⟩
termination_by structural c

theorem allScoped_mono (cs : List Cond) (h : AllScoped columns names cs) (hs : names ⊆ more) :
    AllScoped columns more cs :=
  match cs with
  | [] => trivial
  | _ :: cs => ⟨Cond.Scoped.mono h.1 hs, allScoped_mono cs h.2 hs⟩
termination_by structural cs

end

theorem selectable_names {fields : List String} (hn : fields.Nodup) (hs : fields ⊆ names) :
    Selectable names (fields.map .name) := by
  refine ⟨fun i hi => ?_, fun expression aliasName hi => ?_, ?_⟩
  · obtain ⟨n, h, rfl⟩ := List.mem_map.mp hi
    simpa [Column.isVisible] using hs h
  · obtain ⟨n, -, e⟩ := List.mem_map.mp hi
    cases e
  · simpa [Function.comp_def, Column.outputName] using hn

end Scoped

end Sql

open Sql

/-! ### Compiled expressions -/

section Compiled

variable (columns : TableRef → List String)

/-- The references of a compiled expression resolve, and so would those of its select list. -/
structure Compiled.Scoped (c : Compiled) : Prop where
  source : c.source.Scoped columns
  named : c.header.IsNamed
  available : ∀ a ∈ c.header.attributes, a.expression = none → a.name ∈ c.source.provided columns

variable {columns} {c d : Compiled}

theorem Compiled.Scoped.selectable (h : c.Scoped columns) :
    Selectable (c.source.provided columns) c.columns := by
  refine ⟨fun i hi => ?_, fun expression aliasName hi => ?_, ?_⟩
  · obtain ⟨a, ha, rfl⟩ := List.mem_map.mp hi
    exact Compiled.isVisible_ofAttribute.mpr (h.available a ha)
  · obtain ⟨a, ha, e⟩ := List.mem_map.mp hi
    unfold Column.ofAttribute at e
    split at e
    · rename_i text he
      cases e
      exact h.named a ha (by simp [he])
    · split at e <;> cases e
  · rw [Compiled.map_outputName_columns h.named]
    exact c.header.nodup

/-- Without aliases the fragment provides the attributes under their names. -/
theorem Compiled.Scoped.names_subset (h : c.Scoped columns)
    (resolved : c.header.hasAliases = false) : c.header.names ⊆ c.source.provided columns := by
  intro n hn
  obtain ⟨a, ha, rfl⟩ := Header.mem_names_iff.mp hn
  have noAlias := Header.hasAliases_eq_false_iff.mp resolved a ha
  have plain : a.expression = none := by_contra fun he => h.named a ha he noAlias
  have own : a.outputName = a.name := by simp [Attribute.outputName, noAlias]
  exact own ▸ h.available a ha plain

theorem Compiled.Scoped.enclose (h : c.Scoped columns) (aliasName : String) :
    (c.enclose aliasName).Scoped columns := by
  have settled : c.header.stripAliases.settle = c.header.stripAliases := by
    refine Header.settle_eq_self_iff.mpr fun a ha => ?_
    obtain ⟨b, hb, rfl⟩ := List.mem_map.mp ha
    refine ⟨b.aliasName_resolve, ?_⟩
    unfold Attribute.resolve
    split
    · exact by_contra fun he => h.named b hb he ‹_›
    · rfl
  refine ⟨⟨h.selectable, h.source⟩, Header.isNamed_of_settled settled, fun a ha _ => ?_⟩
  show a.name ∈ c.columns.map Column.outputName
  rw [Compiled.map_outputName_columns h.named, ← c.header.names_stripAliases]
  have resolved := (Header.settle_eq_self_iff.mp settled a ha).1
  exact Header.mem_names_iff.mpr ⟨a, ha, by simp [Attribute.outputName, resolved]⟩

theorem Compiled.Scoped.enclosed {needed : Bool} {kind : AliasKind} {ctx ctx' : Context}
    (h : c.Scoped columns) (he : Enclosed needed kind ctx c d ctx') : d.Scoped columns := by
  cases he with
  | kept _ => exact h
  | wrapped _ => exact h.enclose _

theorem Compiled.Scoped.filter (h : c.Scoped columns) (resolved : c.header.hasAliases = false)
    {cs : List Cond} (hcs : ∀ w ∈ cs, w.Scoped columns c.header.names) :
    (c.filter (conjunction cs)).Scoped columns := by
  cases cs with
  | nil => exact h
  | cons w ws =>
    have clause : (Cond.conj (w :: ws)).Scoped columns (c.source.provided columns) :=
      allScoped_mono _ (allScoped_iff.mpr hcs) (h.names_subset resolved)
    exact ⟨⟨clause, h.source⟩, h.named, h.available⟩

/-- A projection of a fragment without aliases reads the columns of that fragment. -/
theorem Compiled.Scoped.project (h : c.Scoped columns) (resolved : c.header.hasAliases = false)
    {k : Header} {specs : List String} (hk : c.header.project specs = .ok k) :
    k.IsNamed ∧ ∀ a ∈ k.attributes, a.expression = none → a.name ∈ c.source.provided columns := by
  have settled := Header.settle_of_isNamed h.named resolved
  refine ⟨Header.isNamed_project settled hk, fun a ha plain => ?_⟩
  rcases Header.project_cases_of_settled settled hk ha with ⟨-, hn⟩ | ⟨_, -, _, _, -, -, computed⟩
  · exact h.names_subset resolved hn
  · rw [plain] at computed
    cases computed

theorem scoped_table {t : TableRef} {h : Header} (lists : h.Lists (columns t)) :
    (Compiled.mk h.stripAliases (.table t)).Scoped columns := by
  have settled := Header.settle_eq_self_iff.mpr lists.plain
  have stripped : h.stripAliases = h := Header.stripAliases_of_resolved
    (Header.hasAliases_eq_false_iff.mpr fun a ha => (lists.plain a ha).1)
  rw [stripped]
  refine ⟨trivial, Header.isNamed_of_settled settled, fun a ha _ => (lists.names _).mp ?_⟩
  exact Header.mem_names_iff.mpr ⟨a, ha, by simp [Attribute.outputName, (lists.plain a ha).1]⟩

theorem Compiled.Scoped.join {j : Compiled} (hc : c.Scoped columns) (hd : d.Scoped columns)
    (hj : c.join d = .ok j) : j.Scoped columns := by
  obtain ⟨header, source⟩ := join_cases hj
  refine ⟨?_, fun a ha => ?_, fun a ha => ?_⟩
  · rw [source]
    exact ⟨hc.source, hd.source⟩
  · rcases (Header.mem_attributes_join_iff header).mp ha with ⟨b, hb, rfl⟩ | ⟨ha, -⟩
    · simpa using hc.named b hb
    · exact hd.named a ha
  · rw [source]
    rcases (Header.mem_attributes_join_iff header).mp ha with ⟨b, hb, rfl⟩ | ⟨ha, -⟩
    · rw [Header.expression_promoted, Header.name_promoted]
      exact fun plain => List.mem_append_left _ (hc.available b hb plain)
    · exact fun plain => List.mem_append_right _ (hd.available a ha plain)

/-- An aggregation groups by columns of the left fragment and reads them from there. -/
theorem Compiled.Scoped.aggregate {a : Compiled} {specs : List String} (hc : c.Scoped columns)
    (hd : d.Scoped columns) (resolved : c.header.hasAliases = false)
    (ha : c.aggregate d specs = .ok a) : a.Scoped columns := by
  obtain ⟨header, -, source⟩ := aggregate_cases ha
  obtain ⟨named, available⟩ := hc.project resolved header
  have left : c.source.provided columns ⊆ (Fragment.join c.source d.source).provided columns :=
    List.subset_append_left _ _
  refine ⟨?_, named, fun b hb plain => ?_⟩
  · rw [source]
    refine ⟨fun n hn => left (hc.names_subset resolved ?_), hc.source, hd.source⟩
    exact c.header.primaryKey_subset_names hn
  · rw [source]
    exact left (available b hb plain)

/-- A match compares columns that both sides have. -/
theorem Compiled.Scoped.condition (hc : c.Scoped columns) (resolved : c.header.hasAliases = false)
    {h : Header} {negated : Bool} {w : Cond} (hw : w ∈ c.condition h negated) :
    w.Scoped columns h.names := by
  unfold Compiled.condition at hw
  split at hw
  · exact scoped_of_mem_emptyRestrictor hw
  · cases hw
    refine ⟨fun n hn => ?_, selectable_names ?_ fun n hn => ?_, hc.source⟩
    · exact h.nonBlobs_subset_names (List.mem_of_mem_filter hn)
    · exact (h.nodup.sublist (List.filter_sublist.map _)).filter _
    · have common : n ∈ c.header.nonBlobs := by simpa using List.of_mem_filter hn
      exact hc.names_subset resolved (c.header.nonBlobs_subset_names common)

end Compiled

section Tuples

variable {columns : TableRef → List String} {h : Header}

theorem scoped_of_encodeRecord {r : Record} {c : Cond} (he : encodeRecord h r = .ok c) :
    c.Scoped columns h.names := by
  obtain ⟨-, rfl⟩ | ⟨cs, -, pairs, rfl⟩ := encodeRecord_cases he
  · trivial
  · refine allScoped_iff.mpr fun d hd => ?_
    obtain ⟨⟨k, v⟩, -, hkv⟩ := exists_of_mem_right pairs hd
    obtain ⟨field, a, -, found, shape⟩ := encodeEntry_cases hkv
    have known : field ∈ h.names := Header.mem_names_iff.mpr ⟨a, Header.find?_eq_some_iff.mp found⟩
    obtain ⟨-, -, rfl⟩ | ⟨-, l, -, rfl⟩ := shape
    · exact known
    · exact known

/-- The condition of a tuple set compares attributes of the header. -/
theorem scoped_of_tuples {t : TupleSet} {negated : Bool} {w : Option Cond} {ctx ctx' : Context}
    (hr : (t.condition h negated).Returns ctx w ctx') : ∀ c ∈ w, c.Scoped columns h.names := by
  obtain ⟨-, ⟨-, rfl⟩ | ⟨-, -, rfl⟩ | ⟨-, -, c, hc, rfl⟩⟩ := TupleSet.condition_cases hr
  · exact fun c hc => scoped_of_mem_emptyRestrictor hc
  · exact fun c hc => scoped_of_mem_emptyRestrictor hc
  · have inScope : c.Scoped columns h.names := by
      obtain ⟨cs, pairs, shape⟩ := encodeRecords_cases hc
      have each : ∀ d ∈ cs, d.Scoped columns h.names := by
        intro d hd
        obtain ⟨r, -, hr⟩ := exists_of_mem_right pairs hd
        exact scoped_of_encodeRecord hr
      obtain ⟨-, rfl⟩ | ⟨-, rfl⟩ := shape
      · exact each c (by simp)
      · exact allScoped_iff.mpr each
    rintro d ⟨⟩
    split
    · exact scoped_bracket inScope
    · exact inScope

end Tuples

/-! ### Scoped statements -/

/-- All tables inside an outcome have headers that list their columns; then its references
resolve. -/
def Outcome.Scoped (columns : TableRef → List String) : Outcome → Prop
  | .opened e c | .restricted e c | .compiled _ e c =>
    e.Everywhere (fun t h => h.Lists (columns t)) (fun _ => True) → c.Scoped columns
  | .condition h _ r w =>
    r.Everywhere (fun t h => h.Lists (columns t)) (fun _ => True) →
      ∀ c ∈ w, c.Scoped columns h.names
  | .operands h rs cs | .conditions h _ rs cs =>
    AreEverywhere (fun t h => h.Lists (columns t)) (fun _ => True) rs →
      ∀ c ∈ cs, c.Scoped columns h.names

theorem Derives.inScope (columns : TableRef → List String) {ctx ctx' : Context} {o : Outcome}
    (h : Derives ctx o ctx') : o.Scoped columns := by
  induction h with
  | table t h rs => exact fun lists => scoped_table lists.1
  | project rs input header ih =>
    intro lists
    have inScope := ih lists.1
    obtain ⟨named, available⟩ := inScope.project input.wellShaped.2 header
    exact ⟨inScope.source, named, available⟩
  | aggregate rs input _ aggregated ihc ihd =>
    intro lists
    exact (ihc lists.1).aggregate (ihd lists.2.1) input.wellShaped.2 aggregated
  | join rs _ _ joined ihc ihd => exact fun lists => (ihc lists.1).join (ihd lists.2.1) joined
  | unrestricted _ _ ih => exact ih
  | restricted opened _ ready _ ih ihcs =>
    intro lists
    have resolved := (isChain_of_ready opened.wellShaped ready).2
    exact ((ih lists).enclosed ready).filter resolved (ihcs lists.restrictions)
  | compiled _ finished ih => exact fun lists => (ih lists).enclosed finished
  | sql h negated text =>
    rintro - c ⟨⟩
    exact scoped_bracket trivial
  | tuples condition => exact fun _ => scoped_of_tuples condition
  | semijoin h negated input ready ih =>
    intro lists w hw
    have resolved : Header.hasAliases _ = false := input.wellShaped.2
    cases ready with
    | kept _ => exact (ih lists.2).condition resolved hw
    | wrapped needed =>
      rw [resolved, Bool.and_false] at needed
      cases needed
  | union negated _ ih =>
    rintro lists c ⟨⟩
    exact scoped_bracket (allScoped_iff.mpr (ih lists.2))
  | complement negated _ ih =>
    rintro lists c ⟨⟩
    exact scoped_bracket (ih ⟨lists.2, trivial⟩ _ (by simp))
  | noOperands h =>
    rintro - c hc
    cases hc
  | loneMarker _ ih =>
    intro lists c hc
    rcases List.mem_cons.mp hc with rfl | hc
    · trivial
    · exact ih lists.2 c hc
  | @operand _ _ _ _ _ _ w _ _ _ ihw ihcs =>
    intro lists c hc
    rcases List.mem_cons.mp hc with rfl | hc
    · cases w with
      | none => trivial
      | some d => exact ihw lists.1 d rfl
    · exact ihcs lists.2 c hc
  | noConditions h negated =>
    rintro - c hc
    cases hc
  | marker negated _ ih => exact fun lists => ih lists.2
  | clause _ _ ihw ihcs =>
    intro lists c hc
    rcases List.mem_append.mp hc with hc | hc
    · exact ihw lists.1 c (Option.mem_toList.mp hc)
    · exact ihcs lists.2 c hc

/-- **The columns that a statement names are there.** Over tables whose headers list their columns,
every reference of a compiled statement resolves in the `SELECT` where it stands, the output names
of each `SELECT` differ, and every expression has a name. -/
theorem scoped_statement {columns : TableRef → List String} {e : Expr} {suffix : String}
    {s : Statement} {ctx ctx' : Context}
    (tables : e.Everywhere (fun t h => h.Lists (columns t)) (fun _ => True))
    (hr : (e.statement suffix).Returns ctx s ctx') : s.Scoped columns := by
  obtain ⟨c, ctx₁, hc, hr⟩ := returns_bind.mp hr
  obtain ⟨rfl, -⟩ := returns_pure.mp hr
  have inScope : c.Scoped columns := (derives_of_returns hc).inScope columns tables
  exact ⟨inScope.selectable, inScope.source⟩

namespace Sample

/-- Counts of trials under other names, of which some are chosen and retired sessions left out. -/
def busy : Expr :=
  .project trialCounts ["n->trials", "n / 2->half"]
    [.tuples (.ofRecords [.ofEntries [(.name "trials", .int 3), (.name "id", .int 7)]]), .not,
      .semijoin (retired [])]

theorem lists_busy :
    busy.Everywhere (fun t h => h.Lists (database.columns t)) (fun _ => True) := by
  have inactive : (retired []).Everywhere (fun t h => h.Lists (database.columns t))
      (fun _ => True) :=
    ⟨⟨by decide, fun n => Iff.rfl⟩, trivial⟩
  refine ⟨⟨⟨⟨by decide, fun n => Iff.rfl⟩, ?_⟩,
    ⟨⟨by decide, fun n => Iff.rfl⟩, trivial⟩, trivial⟩, ?_⟩
  · exact ⟨trivial, trivial, ⟨trivial, inactive⟩, trivial⟩
  · exact ⟨trivial, trivial, ⟨trivial, inactive⟩, trivial⟩

theorem scoped_busy :
    busy.Everywhere (fun t h => h.Lists (database.columns t)) (fun _ => True) ∧
      ∃ s ctx, (busy.statement "").Returns {} s ctx ∧ s.Scoped database.columns :=
  have hr : (busy.statement "").Returns {} _ _ := rfl
  ⟨lists_busy, _, _, hr, scoped_statement lists_busy hr⟩

end Sample

end Relational

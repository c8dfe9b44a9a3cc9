import Relational.Proofs.Conditions
import Relational.Proofs.Exchange
import Relational.Proofs.Projection
import Relational.Proofs.Shape

/-!
# Requested and delivered attributes

A specification asks for an attribute under an output name. An attribute appears once in a
projection, under its last new name, so of several specifications with the same source only those
that agree with the last rename stand. `Spec.lost` collects the others, unless their names are
delivered by chance. A query that is asked for single values looks each output name up in the
records that it receives; the lookup fails for the lost specifications, and for no others.
-/

namespace Relational

namespace Spec

/-- The name of an attribute after all renames: the target of the last one. -/
def finalName (specs : List Spec) (name : String) : String :=
  (specs.filterMap (newName? name)).getLast?.getD name

/-- Whether a specification has the last word on its attribute. -/
def stands (specs : List Spec) : Spec → Bool
  | .plain name => finalName specs name == name
  | .wildcard => false
  | .rename source target => finalName specs source == target
  | .compute .. => true

/-- Whether a name is the output name of a specification that stands. -/
def delivers (specs : List Spec) (name : String) : Bool :=
  specs.any fun spec => spec.stands specs && spec.outputName == name

/-- The specifications of single attributes whose output names are not delivered. -/
def lost (specs : List Spec) : List Spec :=
  specs.filter fun spec => spec ≠ .wildcard && !delivers specs spec.outputName

variable {specs : List Spec} {spec : Spec} {name : String}

theorem mem_lost_iff : spec ∈ lost specs ↔
    spec ∈ specs ∧ spec ≠ .wildcard ∧ delivers specs spec.outputName = false := by
  simp [lost]

theorem delivers_eq_true_iff : delivers specs name = true ↔
    ∃ spec ∈ specs, spec.stands specs = true ∧ spec.outputName = name := by
  simp [delivers]

/-- A name that changes ends as the target of a rename. -/
theorem finalName_cases (specs : List Spec) (name : String) :
    Spec.rename name (finalName specs name) ∈ specs ∨
      finalName specs name = name ∧ ∀ target, Spec.rename name target ∉ specs := by
  unfold finalName
  cases hl : (specs.filterMap (newName? name)).getLast? with
  | some target =>
    obtain ⟨spec, hs, hn⟩ := List.mem_filterMap.mp (List.mem_of_getLast? hl)
    rw [newName?_eq_some_iff.mp hn] at hs
    exact .inl hs
  | none =>
    refine .inr ⟨rfl, fun target hm => ?_⟩
    have none := List.getLast?_eq_none_iff.mp hl
    have new : target ∈ specs.filterMap (newName? name) :=
      List.mem_filterMap.mpr ⟨_, hm, newName?_eq_some_iff.mpr rfl⟩
    rw [none] at new
    cases new

theorem outputName_renamed (named : AreNamed specs) (a : Attribute) :
    (renamed specs a).outputName = finalName specs a.outputName := by
  unfold renamed finalName
  split
  · rename_i target hl
    obtain ⟨spec, hs, hn⟩ := List.mem_filterMap.mp (List.mem_of_getLast? hl)
    rw [newName?_eq_some_iff.mp hn] at hs
    rw [hl, Option.getD_some]
    exact if_neg (named _ _ (.inl hs))
  · rename_i hl
    rw [hl, Option.getD_none]

/-- Nothing is lost if all renames of an attribute agree with what else is asked of it. -/
theorem lost_eq_nil (agree : ∀ spec ∈ specs, ∀ target,
    Spec.rename spec.source target ∈ specs → target = spec.outputName) : lost specs = [] := by
  refine List.eq_nil_iff_forall_not_mem.mpr fun spec hm => ?_
  obtain ⟨hs, single, undelivered⟩ := mem_lost_iff.mp hm
  have last : finalName specs spec.source = spec.outputName ∨
      finalName specs spec.source = spec.source ∧
        ∀ target, Spec.rename spec.source target ∉ specs :=
    (finalName_cases specs spec.source).imp_left (agree spec hs _)
  have standing : spec.stands specs = true := by
    cases spec with
    | plain name =>
      rcases last with e | ⟨e, -⟩ <;> exact beq_iff_eq.mpr e
    | wildcard => exact absurd rfl single
    | rename source target =>
      rcases last with e | ⟨-, none⟩
      · exact beq_iff_eq.mpr e
      · exact absurd hs (none target)
    | compute _ _ => rfl
  rw [delivers_eq_true_iff.mpr ⟨spec, hs, standing, rfl⟩] at undelivered
  cases undelivered

/-- What a text asks for is not lost among the specifications. -/
def Kept (texts : List String) (text : String) : Prop :=
  ∀ spec, parse text = .ok spec → spec ∉ lost (readAll texts)

theorem forall_kept_iff {texts : List String} :
    (∀ text ∈ texts, Kept texts text) ↔ lost (readAll texts) = [] := by
  constructor
  · intro kept
    refine List.eq_nil_iff_forall_not_mem.mpr fun spec hm => ?_
    obtain ⟨text, ht, hp⟩ := mem_readAll_iff.mp (mem_lost_iff.mp hm).1
    exact kept text ht spec hp hm
  · intro none text _ spec _ hm
    rw [none] at hm
    cases hm

end Spec

namespace Header

variable {h k : Header} {specs : List Spec}

section Delivered

variable (fits : ∀ spec ∈ specs, spec.Fits h) (named : Spec.AreNamed specs)
  (projected : k.attributes = (h.attributes.filter (Spec.keeps specs)).map (Spec.renamed specs) ++
    specs.filterMap Spec.computed?)
include fits named projected

/-- The attribute of a specification that stands is there under its output name. -/
theorem mem_names_of_stands {spec : Spec} (hs : spec ∈ specs)
    (standing : spec.stands specs = true) : spec.outputName ∈ k.names := by
  -- An attribute that is asked for is kept, under its final name.
  have kept {source : String} (mentioned : spec.mentions source = true) (known : source ∈ h.names) :
      Spec.finalName specs source ∈ k.names := by
    obtain ⟨a, ha, rfl⟩ := mem_names_iff.mp known
    refine mem_names_iff.mpr ⟨Spec.renamed specs a, ?_, Spec.outputName_renamed named a⟩
    rw [projected, List.mem_append, List.mem_map]
    refine .inl ⟨a, List.mem_filter.mpr ⟨ha, ?_⟩, rfl⟩
    rw [Spec.keeps, List.any_eq_true.mpr ⟨spec, hs, mentioned⟩, Bool.or_true]
  cases spec with
  | plain name =>
    have final := kept (beq_self_eq_true name) (fits _ hs)
    rwa [beq_iff_eq.mp standing] at final
  | wildcard => cases standing
  | rename source target =>
    have final := kept (beq_self_eq_true source) (fits _ hs).2
    rwa [beq_iff_eq.mp standing] at final
  | compute expression target =>
    have added : Attribute.compute expression target ∈ k.attributes := by
      rw [projected, List.mem_append, List.mem_filterMap]
      exact .inr ⟨_, hs, rfl⟩
    exact mem_names_iff.mpr ⟨_, added, if_neg (named _ _ (.inr hs))⟩

/-- What is asked for under a name of the projection is delivered by a specification that stands. -/
theorem delivers_of_mem_names {spec : Spec} (hs : spec ∈ specs) (single : spec ≠ .wildcard)
    (hn : spec.outputName ∈ k.names) : Spec.delivers specs spec.outputName = true := by
  obtain ⟨a, ha, e⟩ := mem_names_iff.mp hn
  rw [projected, List.mem_append, List.mem_map, List.mem_filterMap] at ha
  rw [Spec.delivers_eq_true_iff]
  rcases ha with ⟨b, hb, rfl⟩ | ⟨other, ho, hc⟩
  · have known : b.outputName ∈ h.names := mem_names_iff.mpr ⟨b, List.mem_of_mem_filter hb, rfl⟩
    rw [Spec.outputName_renamed named] at e
    rcases Spec.finalName_cases specs b.outputName with hr | ⟨same, none⟩
    · exact ⟨_, hr, beq_self_eq_true _, e⟩
    · -- An attribute that keeps its name is only asked for by that name.
      rw [same] at e
      refine ⟨spec, hs, ?_, rfl⟩
      cases spec with
      | plain name =>
        cases e
        exact beq_iff_eq.mpr same
      | wildcard => exact absurd rfl single
      | rename source target =>
        cases e
        have unchanged : b.outputName = source := by
          by_contra differs
          exact (fits _ hs).1 ⟨differs, known⟩
        cases unchanged
        exact absurd hs (none _)
      | compute expression target =>
        cases e
        exact absurd known (fits _ hs)
  · cases other with
    | compute expression target =>
      cases hc
      exact ⟨_, ho, rfl, (if_neg (named _ _ (.inr ho))).symm.trans e⟩
    | plain _ => cases hc
    | wildcard => cases hc
    | rename _ _ => cases hc

end Delivered

/-- The output name of a specification is a name of the projection unless the specification is
lost. -/
theorem mem_names_project_iff {texts : List String} (hk : h.project texts = .ok k) {spec : Spec}
    (hs : spec ∈ Spec.readAll texts) (single : spec ≠ .wildcard) :
    spec.outputName ∈ k.names ↔ spec ∉ Spec.lost (Spec.readAll texts) := by
  obtain ⟨specs, parsed, fits, projected⟩ := project_eq_ok_iff.mp hk
  rw [Spec.readAll_eq parsed] at hs ⊢
  have named := Spec.areNamed_of_parse parsed
  rw [Spec.mem_lost_iff]
  constructor
  · rintro hn ⟨-, -, undelivered⟩
    rw [delivers_of_mem_names fits named projected hs single hn] at undelivered
    cases undelivered
  · intro kept
    have delivered : Spec.delivers specs spec.outputName = true := by
      cases hd : Spec.delivers specs spec.outputName with
      | true => rfl
      | false => exact absurd ⟨hs, single, hd⟩ kept
    obtain ⟨other, ho, standing, e⟩ := Spec.delivers_eq_true_iff.mp delivered
    exact e ▸ mem_names_of_stands fits named projected ho standing

end Header

/-! ### Lookups in records -/

theorem get?_ofEntries_zip {names : List String} (nodup : names.Nodup) {row : List Value}
    (complete : row.length = names.length) (name : String) :
    ((Record.ofEntries ((names.map Label.name).zip row)).get? (.name name)).isSome ↔
      name ∈ names := by
  have keys : labels ((names.map Label.name).zip row) = names.map .name :=
    List.map_fst_zip (by simp [complete])
  have injective : Function.Injective Label.name := by
    intro a b e
    cases e
    rfl
  have entries := entries_ofEntries (keys ▸ nodup.map injective)
  have known : name ∈ names ↔ Label.name name ∈ labels ((names.map Label.name).zip row) := by
    rw [keys]
    exact (List.mem_map_of_injective injective).symm
  rw [known, Record.get?, entries, Option.isSome_iff_ne_none, ne_eq, List.lookup_eq_none_iff,
    labels, List.mem_map]
  constructor
  · intro found
    by_contra absent
    exact found fun p hp => bne_iff_ne.mpr fun e => absent ⟨p, hp, e.symm⟩
  · rintro ⟨p, hp, e⟩ absent
    exact bne_iff_ne.mp (absent p hp) e.symm

/-- The value of a complete row under an output name exists if its column does. -/
theorem settles_output {names : List String} (nodup : names.Nodup) {row : List Value}
    (complete : row.length = names.length) {text : String} {spec : Spec}
    (parsed : Spec.parse text = .ok spec) :
    (liftM (Query.output (.ofEntries ((names.map Label.name).zip row)) text) :
      Action Value).Settles (spec.outputName ∈ names) (.fault .missingKey) := by
  rw [← get?_ofEntries_zip nodup complete]
  generalize Record.ofEntries _ = record
  cases hv : record.get? (.name spec.outputName) with
  | some v =>
    have found : Query.output record text = .ok v := by
      simp only [Query.output, parsed, hv, bind, Except.bind]
      rfl
    exact ⟨fun _ => ⟨v, yields_lift found⟩, fun absent => absurd rfl absent⟩
  | none =>
    have missing : Query.output record text = .error (.fault .missingKey) := by
      simp only [Query.output, parsed, hv, bind, Except.bind]
      rfl
    exact ⟨fun found => by simp at found, fun _ => yields_lift missing⟩

/-! ### Queries -/

theorem filterMap_eq_of_mapM {α β : Type} {f : α → Option β} {l : List α} {l' : List β}
    (h : l.mapM f = some l') : l.filterMap f = l' := by
  induction l generalizing l' with
  | nil =>
    cases h
    rfl
  | cons a l ih =>
    rw [List.mapM_cons] at h
    obtain ⟨b, hb, h⟩ := Option.bind_eq_some_iff.mp h
    obtain ⟨bs, hbs, h⟩ := Option.bind_eq_some_iff.mp h
    cases h
    rw [List.filterMap_cons, hb, ih hbs]

theorem filterMap_text? {args : List Argument} {use : SpecUse} {specs : List String}
    (h : Argument.texts use args = .ok specs) : args.filterMap Argument.text? = specs := by
  unfold Argument.texts at h
  split at h
  · cases h
    exact filterMap_eq_of_mapM ‹_›
  · cases h

/-- Without restrictions and for a consumer that never encloses, an expression is only opened. -/
theorem opened_of_returns {e : Expr} {c : Compiled} {ctx ctx' : Context}
    (unrestricted : e.restrictions = []) (hr : (e.compile .never).Returns ctx c ctx') :
    Derives ctx (.opened e c) ctx' := by
  cases derives_of_returns hr with
  | compiled restricted finished =>
    cases finished with
    | wrapped needed => cases needed
    | kept _ =>
      cases restricted with
      | unrestricted opened _ => exact opened
      | restricted _ some => exact absurd unrestricted some

/-- The header of a projected query is a projection by the texts among the arguments. -/
theorem exists_project_of_returns {e : Expr} {args : List Argument} {f : Expr} {c : Compiled}
    {ctx ctx' : Context} (projected : e.projectBy args = .ok f)
    (compiled : (f.compile .never).Returns ctx c ctx') :
    ∃ h : Header, h.project (args.filterMap Argument.text?) = .ok c.header := by
  unfold Expr.projectBy at projected
  split at projected
  · obtain ⟨specs, texts, projected⟩ := bind_eq_ok.mp projected
    cases projected
    cases opened_of_returns rfl compiled with
    | @aggregate _ _ _ _ _ d _ _ _ _ _ _ aggregated =>
      exact ⟨d.header, filterMap_text? texts ▸ (aggregate_cases aggregated).1⟩
  · obtain ⟨specs, texts, projected⟩ := bind_eq_ok.mp projected
    cases projected
    cases opened_of_returns rfl compiled with
    | @project _ _ _ d _ _ _ _ header =>
      exact ⟨d.header, filterMap_text? texts ▸ header⟩

/-- A query is asked for outputs, its statement is compiled, and the reply will have the columns
of the select list and complete rows. -/
structure Query.Answered (q : Query) (use : SpecUse) (args : List Argument) (σ : Session)
    (specs : List String) (c : Compiled) (rows : List (List Value)) : Prop where
  requested : Argument.outputSpecs use (Argument.splitClause args).2 = .ok specs
  compiled : ∃ e ctx, q.expr.projectBy (Argument.splitClause args).2 = .ok e ∧
    (e.compile .never).Returns {} c ctx
  quotable : c.header.checkQuotable = .ok ()
  awaits : σ.Awaits q.database (.rows (c.header.names.map .name) (some rows))
  complete : ∀ row ∈ rows, row.length = c.header.names.length

theorem outputSpecs_eq_ok {use : SpecUse} {args : List Argument} {specs : List String}
    (h : Argument.outputSpecs use args = .ok specs) :
    args.filterMap Argument.text? = specs ∧ ∀ text ∈ specs, Text.strip text ≠ "*" := by
  unfold Argument.outputSpecs at h
  dsimp only at h
  split at h
  · cases h
  · split at h
    · cases h
    · rename_i single
      cases h
      rw [Bool.not_eq_true, List.any_eq_false] at single
      exact ⟨rfl, fun text ht e => single text ht (decide_eq_true e)⟩

theorem Spec.ne_wildcard_of_parse {text : String} {spec : Spec} (hp : parse text = .ok spec)
    (single : Text.strip text ≠ "*") : spec ≠ .wildcard := by
  rintro rfl
  unfold parse at hp
  split at hp
  · cases hp
  · rename_i trimmed
    exact single (by rw [Text.strip, trimmed])
  · split at hp
    · cases hp
    · split at hp <;> cases hp

section Answered

variable {q : Query} {use : SpecUse} {args : List Argument} {σ : Session} {specs : List String}
  {c : Compiled} {rows : List (List Value)}

namespace Query.Answered

/-- A request is found in the select list unless its specification is lost. -/
theorem exists_spec (h : q.Answered use args σ specs c rows) {text : String} (ht : text ∈ specs) :
    ∃ spec, Spec.parse text = .ok spec ∧
      (spec.outputName ∈ c.header.names ↔ spec ∉ Spec.lost (Spec.readAll specs)) := by
  obtain ⟨rfl, single⟩ := outputSpecs_eq_ok h.requested
  obtain ⟨e, ctx, projected, compiled⟩ := h.compiled
  obtain ⟨k, hk⟩ := exists_project_of_returns projected compiled
  obtain ⟨read, parsed, -⟩ := Header.project_eq_ok_iff.mp hk
  obtain ⟨spec, hs, hp⟩ := exists_of_mem_right (List.Forall₂.flip parsed) ht
  rw [← Spec.readAll_eq parsed] at hs
  have notAll := Spec.ne_wildcard_of_parse hp (single text ht)
  exact ⟨spec, hp, Header.mem_names_project_iff hk hs notAll⟩

/-- The lookup of a request in a row of the reply. -/
theorem settles (h : q.Answered use args σ specs c rows) {text : String} (ht : text ∈ specs)
    {row : List Value} (hr : row ∈ rows) :
    (liftM (Query.output (.ofEntries ((c.header.names.map Label.name).zip row)) text) :
      Action Value).Settles (Spec.Kept specs text) (.fault .missingKey) := by
  obtain ⟨spec, hp, delivered⟩ := h.exists_spec ht
  have same : spec.outputName ∈ c.header.names ↔ Spec.Kept specs text := by
    rw [delivered]
    constructor
    · intro kept other ho
      cases hp.symm.trans ho
      exact kept
    · exact fun kept => kept spec hp
  rw [← same]
  exact settles_output c.header.nodup (h.complete row hr) hp

/-- The lookups of a request in all rows of the reply. -/
theorem settles_column (h : q.Answered use args σ specs c rows) {text : String}
    (ht : text ∈ specs) :
    (do return Value.list (← (Record.ofReply (c.header.names.map .name) (some rows)).mapM
      fun record => liftM (Query.output record text)) : Action Value).Settles
        (rows = [] ∨ Spec.Kept specs text) (.fault .missingKey) := by
  have each (record : Record)
      (hm : record ∈ Record.ofReply (c.header.names.map .name) (some rows)) :
      (liftM (Query.output record text) : Action Value).Settles (Spec.Kept specs text)
        (.fault .missingKey) := by
    obtain ⟨row, hr, rfl⟩ := List.mem_map.mp hm
    exact h.settles ht hr
  have values := settles_mapM each
  have condition : (∀ record ∈ Record.ofReply (c.header.names.map .name) (some rows),
      Spec.Kept specs text) ↔ rows = [] ∨ Spec.Kept specs text := by
    cases rows with
    | nil => simp [Record.ofReply]
    | cons row rows =>
      exact ⟨fun all => .inr (all _ List.mem_cons_self), fun kept _ _ => kept.resolve_left nofun⟩
  rw [condition] at values
  exact values.bind fun vs => ⟨.list vs, yields_pure _⟩

/-- A query that looks up outputs sends one statement, and what it comes to depends on the rows. -/
theorem exists_sends {α : Type} (h : q.Answered use args σ specs c rows) {arity : Option Int}
    {provided : List String → Nat}
    (accepted : Query.requireArity arity (provided specs) = .ok ())
    {read : List String → List Record × Header → Action α} {P : Except Error α → Prop}
    (reads : ∃ outcome, (read specs
      (Record.ofReply (c.header.names.map .name) (some rows), c.header)).Yields outcome ∧
        P outcome) :
    ∃ outcome, (do
      let specs ← liftM (Argument.outputSpecs use (Argument.splitClause args).2)
      liftM (Query.requireArity arity (provided specs))
      read specs (← q.fetchTuples args) : Action α).Sends σ
        (c.statement (Argument.splitClause args).1).render outcome ∧ P outcome := by
  obtain ⟨outcome, yields, hP⟩ := reads
  obtain ⟨e, ctx, projected, compiled⟩ := h.compiled
  refine ⟨outcome, ?_, hP⟩
  refine sends_after (yields_lift h.requested) fun n₁ => ?_
  refine sends_after (yields_lift accepted) fun n₂ => ?_
  have awaits := (h.awaits.report n₁).report n₂
  exact sends_before (sends_fetchTuples projected compiled h.quotable awaits) yields

end Query.Answered

/-- The only row gives all values if nothing is lost. -/
theorem sends_fetchOne (h : q.Answered .fetchOne args σ specs c rows) {arity : Option Int}
    (accepted : Query.requireArity arity specs.length = .ok ()) :
    ∃ outcome, (q.fetchOne args arity).Sends σ
        (c.statement (Argument.splitClause args).1).render outcome ∧
      (outcome = .error (.fault .missingKey) ↔
        rows.length = 1 ∧ Spec.lost (Spec.readAll specs) ≠ []) ∧
      ((∃ v, outcome = .ok v) ↔ rows.length = 1 ∧ Spec.lost (Spec.readAll specs) = []) := by
  refine h.exists_sends accepted ?_
  rcases rows with _ | ⟨row, _ | ⟨other, rest⟩⟩
  · exact ⟨.error (.notScalar 0), yields_lift rfl, by simp, by simp⟩
  · have values := settles_mapM fun text ht => h.settles ht (List.mem_singleton_self row)
    rw [Spec.forall_kept_iff] at values
    refine (values.bind fun vs => ?_).exists_outcome (by simp) (by simp)
    rcases vs with _ | ⟨v, _ | ⟨w, vs⟩⟩ <;> exact ⟨_, yields_pure _⟩
  · exact ⟨.error (.notScalar _), yields_lift rfl, by simp, by simp⟩

/-- All rows give all values if nothing is lost. -/
theorem sends_fetchColumns (h : q.Answered .fetchColumns args σ specs c rows) {withKeys : Bool}
    {arity : Option Int} (accepted : Query.requireArity arity
      (if withKeys then specs.length + 1 else specs.length) = .ok ()) :
    ∃ outcome, (q.fetchColumns args withKeys arity).Sends σ
        (c.statement (Argument.splitClause args).1).render outcome ∧
      (outcome = .error (.fault .missingKey) ↔
        rows ≠ [] ∧ Spec.lost (Spec.readAll specs) ≠ []) ∧
      ((∃ v, outcome = .ok v) ↔ rows = [] ∨ Spec.lost (Spec.readAll specs) = []) := by
  refine h.exists_sends accepted ?_
  have columns := settles_mapM fun text ht => h.settles_column ht
  have condition : (∀ text ∈ specs, rows = [] ∨ Spec.Kept specs text) ↔
      rows = [] ∨ Spec.lost (Spec.readAll specs) = [] := by
    rw [← Spec.forall_kept_iff]
    by_cases hr : rows = [] <;> simp [hr]
  rw [condition] at columns
  refine (columns.bind fun cs => ?_).exists_outcome (by rw [not_or]) Iff.rfl
  split
  · exact ⟨_, yields_pure _⟩
  · rcases cs with _ | ⟨v, _ | ⟨w, vs⟩⟩ <;> exact ⟨_, yields_pure _⟩

end Answered

/-- **What is requested is delivered unless it is lost.** In a projection, the output name of a
specification is a name of the projected header if and only if the specification is not lost, and
none is lost if all renames of an attribute agree with what else is asked of it. When the server
returns the columns of the select list, a lookup in the records fails if and only if a requested
specification is lost; otherwise the requested values are returned, those of the only row or those
of all rows. -/
theorem requested_delivered (texts : List String) :
    (∀ h k : Header, h.project texts = .ok k → ∀ text ∈ texts,
      ∃ spec, Spec.parse text = .ok spec ∧ (spec ≠ .wildcard →
        (spec.outputName ∈ k.names ↔ spec ∉ Spec.lost (Spec.readAll texts)))) ∧
    ((∀ spec ∈ Spec.readAll texts, ∀ target, .rename spec.source target ∈ Spec.readAll texts →
      target = spec.outputName) → Spec.lost (Spec.readAll texts) = []) ∧
    ∀ (q : Query) (args : List Argument) (σ : Session) (c : Compiled) (rows : List (List Value))
        (arity : Option Int),
      (q.Answered .fetchOne args σ texts c rows →
        Query.requireArity arity texts.length = .ok () →
        ∃ outcome, (q.fetchOne args arity).Sends σ
            (c.statement (Argument.splitClause args).1).render outcome ∧
          (outcome = .error (.fault .missingKey) ↔
            rows.length = 1 ∧ Spec.lost (Spec.readAll texts) ≠ []) ∧
          ((∃ v, outcome = .ok v) ↔ rows.length = 1 ∧ Spec.lost (Spec.readAll texts) = [])) ∧
      ∀ withKeys : Bool, q.Answered .fetchColumns args σ texts c rows →
        Query.requireArity arity (if withKeys then texts.length + 1 else texts.length) = .ok () →
        ∃ outcome, (q.fetchColumns args withKeys arity).Sends σ
            (c.statement (Argument.splitClause args).1).render outcome ∧
          (outcome = .error (.fault .missingKey) ↔
            rows ≠ [] ∧ Spec.lost (Spec.readAll texts) ≠ []) ∧
          ((∃ v, outcome = .ok v) ↔ rows = [] ∨ Spec.lost (Spec.readAll texts) = []) := by
  refine ⟨fun h k hk text ht => ?_, Spec.lost_eq_nil, ?_⟩
  · obtain ⟨read, parsed, -⟩ := Header.project_eq_ok_iff.mp hk
    obtain ⟨spec, hs, hp⟩ := exists_of_mem_right (List.Forall₂.flip parsed) ht
    rw [← Spec.readAll_eq parsed] at hs
    exact ⟨spec, hp, Header.mem_names_project_iff hk hs⟩
  · intro q args σ c rows arity
    exact ⟨fun h accepted => sends_fetchOne h accepted,
      fun withKeys h accepted => sends_fetchColumns h accepted⟩

namespace Sample

/-- A session with a database and the reply to the next statement: one session under the given
column names. -/
def awaiting (columns : List String) : Session where
  databases := [⟨"mysql", false, []⟩]
  replies := [.rows (columns.map .name) (some [[.int 1, .int 5]])]

/-- Attributes as arguments of a fetch. -/
def asking (specs : List String) : List Argument := specs.map fun s => .value (.text s)

theorem answered_points :
    Query.Answered ⟨0, sessions []⟩ .fetchOne (asking ["score->points", "id"])
      (awaiting ["id", "points"]) ["score->points", "id"]
      ⟨⟨[column "id" true, { column "score" false with aliasName := "points" }], by decide⟩,
        .table ⟨"session", "lab", by decide⟩⟩
      [[.int 1, .int 5]] where
  requested := by decide
  compiled := ⟨_, _, rfl, rfl⟩
  quotable := rfl
  awaits := ⟨⟨_, rfl⟩, rfl⟩
  complete := by decide

theorem delivered_points :
    Spec.lost (Spec.readAll ["score->points", "id"]) = [] ∧
      ∃ v, (Query.fetchOne ⟨0, sessions []⟩ (asking ["score->points", "id"]) none).Sends
        (awaiting ["id", "points"]) "SELECT `id`,`score` AS `points` FROM `lab`.`session`"
          (.ok v) := by
  have kept : Spec.lost (Spec.readAll ["score->points", "id"]) = [] := by decide
  obtain ⟨outcome, sends, -, returned⟩ :=
    ((requested_delivered _).2.2 _ _ _ _ _ none).1 answered_points rfl
  obtain ⟨v, rfl⟩ := returned.mpr ⟨rfl, kept⟩
  exact ⟨kept, v, sends⟩

/-- An attribute that is requested under its own name and then under another has only the other one
in the projection, and the lookup of its own name fails. -/
theorem not_delivered_score :
    (∃ k, (Header.mk [column "id" true, column "score" false] (by decide)).project
      ["score", "score->points"] = .ok k ∧ k.names = ["id", "points"]) ∧
    (Query.fetchOne ⟨0, sessions []⟩ (asking ["score", "score->points"]) none).Sends
      (awaiting ["id", "points"]) "SELECT `id`,`score` AS `points` FROM `lab`.`session`"
        (.error (.fault .missingKey)) :=
  ⟨⟨_, rfl, rfl⟩, _, rfl, rfl⟩

end Sample

end Relational

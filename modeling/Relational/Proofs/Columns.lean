import Relational.Proofs.Appearing

/-!
# Lists of columns

A statement lists columns after each `SELECT`, after `GROUP BY` and before `IN`. A list is empty if
a relation without a key is grouped, or if no column is left of a relation without a key and the
relation has to be enclosed. `Expr.isFilled` finds both, and there are no other ways: in particular,
all lists have a column if all tables have a key.
-/

namespace Relational

namespace Sql

mutual

/-- The texts of all lists of columns in a fragment. -/
def Fragment.columnLists : Fragment → List String
  | .table _ => []
  | .derived columns source _ => selectList columns :: source.columnLists
  | .join l r => l.columnLists ++ r.columnLists
  | .filter source c => source.columnLists ++ c.columnLists
  | .group source names => nameList names :: source.columnLists
termination_by structural f => f

/-- The texts of all lists of columns in a condition. Both sides of an `IN` have the same one. -/
def Cond.columnLists : Cond → List String
  | .raw _ | .constant _ | .isNull _ | .equal .. => []
  | .conj cs | .disj cs => columnListsAll cs
  | .paren c | .not c => c.columnLists
  | .within names _ source => nameList names :: source.columnLists
termination_by structural c => c

/-- The texts of all lists of columns in several conditions. -/
def columnListsAll : List Cond → List String
  | [] => []
  | c :: cs => c.columnLists ++ columnListsAll cs
termination_by structural cs => cs

end

/-- The texts of all lists of columns in a statement. The text of a list without columns is
empty. -/
def Statement.columnLists (s : Statement) : List String :=
  selectList s.columns :: s.source.columnLists

theorem columnListsAll_eq_flatMap (cs : List Cond) :
    columnListsAll cs = cs.flatMap Cond.columnLists := by
  induction cs with
  | nil => rfl
  | cons c cs ih => rw [columnListsAll, ih, List.flatMap_cons]

@[simp] theorem columnLists_conj (cs : List Cond) :
    (Cond.conj cs).columnLists = cs.flatMap Cond.columnLists :=
  columnListsAll_eq_flatMap cs

@[simp] theorem columnLists_disj (cs : List Cond) :
    (Cond.disj cs).columnLists = cs.flatMap Cond.columnLists :=
  columnListsAll_eq_flatMap cs

@[simp] theorem columnLists_bracket (negated : Bool) (c : Cond) :
    (bracket negated c).columnLists = c.columnLists := by
  cases negated <;> rfl

theorem IsSimple.columnLists_eq_nil {c : Cond} (h : IsSimple c) : c.columnLists = [] := by
  induction h with
  | constant _ | isNull _ | equal _ _ => rfl
  | conj _ ih | disj _ ih => simpa using ih
  | paren _ ih | not _ ih => exact ih

theorem columnLists_getD (w : Option Cond) :
    (w.getD (.constant true)).columnLists = w.toList.flatMap Cond.columnLists := by
  cases w <;> simp [Cond.columnLists]

/-! ### Texts of lists -/

theorem joinWith_eq_empty_iff {separator : String} {ss : List String} (named : "" ∉ ss) :
    Text.joinWith separator ss = "" ↔ ss = [] := by
  match ss with
  | [] => exact iff_of_true rfl rfl
  | [s] =>
    have some : s ≠ "" := fun e => named (by simp [e])
    simpa using some
  | s :: t :: ss =>
    have some : s ≠ "" := fun e => named (by simp [e])
    simp [some]

theorem quote_ne_empty {s : String} (h : s ≠ "") : quote s ≠ "" := by
  have some : s.toList ≠ [] := by simpa using h
  obtain ⟨c, cs, chars⟩ := List.exists_cons_of_ne_nil some
  simp [quote, chars, quoteChars]

/-- A list of names is empty only if there are none, since no name is. -/
theorem nameList_eq_empty_iff {names : List String} (named : "" ∉ names) :
    nameList names = "" ↔ names = [] := by
  have quoted : "" ∉ names.map quote := by
    intro hm
    obtain ⟨name, hn, e⟩ := List.mem_map.mp hm
    exact quote_ne_empty (fun empty => named (empty ▸ hn)) e
  rw [nameList, joinWith_eq_empty_iff quoted, List.map_eq_nil_iff]

theorem render_ofAttribute_ne {a : Attribute} (h : a.outputName ≠ "") :
    (Column.ofAttribute a).render ≠ "" := by
  unfold Column.ofAttribute
  split
  · simp [Column.render]
  · split
    · rename_i plain
      rw [Attribute.outputName, if_pos plain] at h
      exact quote_ne_empty h
    · simp [Column.render]

end Sql

open Sql

theorem selectList_columns {c : Compiled} (named : "" ∉ c.header.names) :
    selectList c.columns = "" ↔ c.header.names = [] := by
  have rendered : "" ∉ c.columns.map Column.render := by
    intro hm
    obtain ⟨column, hc, e⟩ := List.mem_map.mp hm
    obtain ⟨a, ha, rfl⟩ := List.mem_map.mp hc
    have some : a.outputName ≠ "" := fun empty => named (empty ▸ List.mem_map_of_mem ha)
    exact render_ofAttribute_ne some e
  rw [selectList, joinWith_eq_empty_iff rendered]
  simp [Compiled.columns, Header.names]

/-! ### Names of columns -/

/-- A header has columns, and each of them has a name. -/
def Header.IsListable (h : Header) : Prop := h.names ≠ [] ∧ "" ∉ h.names

instance (h : Header) : Decidable h.IsListable :=
  inferInstanceAs (Decidable (_ ∧ _))

/-- All tables at every depth have columns with names. -/
abbrev Expr.IsListable (e : Expr) : Prop := e.Everywhere (fun _ h => h.IsListable) (fun _ => True)

/-- All tables in what a stage of a compilation starts from have columns with names. -/
def Outcome.IsListable : Outcome → Prop
  | .opened e _ | .restricted e _ | .compiled _ e _ => e.IsListable
  | .condition _ _ r _ => r.Everywhere (fun _ h => h.IsListable) (fun _ => True)
  | .operands _ rs _ | .conditions _ _ rs _ =>
    AreEverywhere (fun _ h => h.IsListable) (fun _ => True) rs

theorem names_of_enclosed {needed : Bool} {kind : AliasKind} {ctx ctx' : Context}
    {c d : Compiled} (h : Enclosed needed kind ctx c d ctx') : d.header.names = c.header.names := by
  rw [← Header.names_settle, settle_header_of_enclosed h, Header.names_settle]

/-- Projections give names to what they compute. -/
theorem Header.named_project {h k : Header} {texts : List String} (hk : h.project texts = .ok k)
    (named : "" ∉ h.names) : "" ∉ k.names := by
  intro hn
  obtain ⟨a, ha, e⟩ := mem_names_iff.mp hn
  rcases project_cases hk ha with ⟨b, hb, rfl | ⟨target, some, rfl⟩⟩ |
    ⟨-, -, expression, target, -, some, rfl⟩
  · exact named (mem_names_iff.mpr ⟨a, hb, e⟩)
  · exact some ((if_neg some).symm.trans e)
  · exact some ((if_neg some).symm.trans e)

/-- The columns of an outcome have names. -/
def Outcome.Named : Outcome → Prop
  | .opened _ c | .restricted _ c | .compiled _ _ c => "" ∉ c.header.names
  | _ => True

theorem Derives.named {ctx ctx' : Context} {o : Outcome} (h : Derives ctx o ctx')
    (tables : o.IsListable) : o.Named := by
  induction h with
  | table t h rs =>
    rw [Outcome.Named, Header.names_stripAliases]
    exact tables.1.2
  | project rs _ header ih => exact Header.named_project header (ih tables.1)
  | aggregate rs _ _ aggregated ihc _ =>
    exact Header.named_project (aggregate_cases aggregated).1 (ihc tables.1)
  | join rs _ _ joined ihl ihr =>
    intro hn
    rcases (Header.mem_names_join_iff (join_cases joined).1).mp hn with hn | hn
    · exact ihl tables.1 hn
    · exact ihr tables.2.1 hn
  | unrestricted _ _ ih => exact ih tables
  | restricted _ _ ready _ ih _ =>
    rw [Outcome.Named, header_filter, names_of_enclosed ready]
    exact ih tables
  | compiled _ finished ih =>
    rw [Outcome.Named, names_of_enclosed finished]
    exact ih tables
  | _ => trivial

/-! ### Operators with enough columns -/

/-- Whether an expression has columns. -/
def Expr.hasColumns (e : Expr) : Bool := e.onHeading fun h => !h.names.isEmpty

/-- Whether an expression has a key. -/
def Expr.hasKey (e : Expr) : Bool := e.onHeading fun h => !h.primaryKey.isEmpty

/-- Whether the lists that an operator asks for have a column: the keys by which it groups, and the
columns of its sides. A projection is enclosed before it is restricted if it continues a `WHERE`
clause, so that it needs columns of its own. -/
def Expr.isFilled : Expr → Bool
  | .project e specs rs =>
    rs.isEmpty || !e.endsInWhere || (Expr.project e specs rs).hasColumns
  | .aggregate e g _ _ => e.hasKey && g.hasColumns
  | .join l r _ => l.hasColumns && r.hasColumns
  | .table .. | .union _ | .negation _ => true

/-- All of several operators have enough columns. -/
def AreFilled (es : List Expr) : Prop := ∀ e ∈ es, e.isFilled = true

theorem areFilled_nil : AreFilled [] := List.forall_mem_nil _

theorem areFilled_cons {e : Expr} {es : List Expr} :
    AreFilled (e :: es) ↔ e.isFilled = true ∧ AreFilled es :=
  List.forall_mem_cons

theorem areFilled_append {es fs : List Expr} :
    AreFilled (es ++ fs) ↔ AreFilled es ∧ AreFilled fs :=
  List.forall_mem_append

section Heading

variable {e : Expr} {h : Header} (heading : e.heading = .ok h.settle)
include heading

theorem hasColumns_iff : e.hasColumns = true ↔ h.names ≠ [] := by
  rw [Expr.hasColumns, onHeading_of_eq heading, Header.names_settle]
  simp

theorem hasKey_iff : e.hasKey = true ↔ h.primaryKey ≠ [] := by
  rw [Expr.hasKey, onHeading_of_eq heading, Header.primaryKey_settle]
  simp

end Heading

theorem Expr.hasColumns_of_hasKey {e : Expr} (h : e.hasKey = true) : e.hasColumns = true := by
  unfold hasKey onHeading at h
  unfold hasColumns onHeading
  split
  · rename_i k he
    rw [he] at h
    have some : k.primaryKey ≠ [] := by simpa using h
    obtain ⟨name, hn⟩ := List.exists_mem_of_ne_nil _ some
    have names : k.names ≠ [] := List.ne_nil_of_mem (k.primaryKey_subset_names hn)
    simpa using names
  · rfl

theorem Header.names_ne_nil_of_hasAliases {h : Header} (ha : h.hasAliases = true) :
    h.names ≠ [] := by
  obtain ⟨a, ha, -⟩ := List.any_eq_true.mp ha
  exact List.ne_nil_of_mem (mem_names_iff.mpr ⟨a, ha, rfl⟩)

theorem Header.names_ne_nil_of_sharesColumn {h k : Header} (hs : h.sharesColumn k = true) :
    k.names ≠ [] := by
  obtain ⟨name, hn⟩ : ∃ name ∈ h.nonBlobs, name ∈ k.nonBlobs := by simpa [sharesColumn] using hs
  exact List.ne_nil_of_mem (k.nonBlobs_subset_names hn.2)

/-! ### Statements with filled lists -/

/-- Enclosing a relation lists its columns. -/
theorem filled_enclosed {needed : Bool} {kind : AliasKind} {c d : Compiled} {ctx ctx' : Context}
    (h : Enclosed needed kind ctx c d ctx') (named : "" ∉ c.header.names) :
    "" ∉ d.source.columnLists ↔
      (needed = true → c.header.names ≠ []) ∧ "" ∉ c.source.columnLists := by
  cases h with
  | kept h => simp [h]
  | wrapped h =>
    show "" ∉ selectList c.columns :: c.source.columnLists ↔ _
    rw [List.mem_cons, not_or, eq_comm, selectList_columns named, h]
    simp

theorem filled_filter {c : Compiled} {cs : List Cond} :
    "" ∉ (c.filter (conjunction cs)).source.columnLists ↔
      "" ∉ c.source.columnLists ∧ "" ∉ cs.flatMap Cond.columnLists := by
  cases cs with
  | nil => simp [conjunction, Compiled.filter]
  | cons d ds =>
    show "" ∉ c.source.columnLists ++ (Cond.conj (d :: ds)).columnLists ↔ _
    rw [columnLists_conj, List.mem_append, not_or]

/-- A match lists the columns that are compared. -/
theorem filled_condition {c : Compiled} {h : Header} {negated : Bool}
    (named : "" ∉ c.header.names) :
    "" ∉ (c.condition h negated).toList.flatMap Cond.columnLists ↔
      (h.sharesColumn c.header = true → "" ∉ c.source.columnLists) := by
  unfold Compiled.condition Header.sharesColumn
  split
  · rename_i none
    refine iff_of_true ?_ (by simp [none])
    cases negated <;> simp [emptyRestrictor, Cond.columnLists]
  · rename_i some
    have shared : "" ∉ h.nonBlobs.filter (· ∈ c.header.nonBlobs) := fun hm =>
      named (c.header.nonBlobs_subset_names (by simpa using (List.mem_filter.mp hm).2))
    rw [Option.toList_some, List.flatMap_singleton, Cond.columnLists, List.mem_cons, not_or,
      eq_comm, nameList_eq_empty_iff shared, List.isEmpty_eq_false_iff.mpr some, and_iff_right some]
    simp

/-- A restricted operator has enough columns if it has them without its restrictions, and has a
column in case that it is enclosed before it is restricted. -/
theorem isFilled_iff_of_opened {e : Expr} {c : Compiled} {ctx ctx' : Context}
    (opened : Derives ctx (.opened e c) ctx') (some : e.restrictions ≠ []) :
    e.isFilled = true ↔ e.unrestricted.isFilled = true ∧
      ((c.header.hasAliases || c.source.isFiltered) = true → c.header.names ≠ []) := by
  have heading : e.heading = .ok c.header.settle := opened.headed
  have ends := opened.ends
  have shaped : Shaped e c True := opened.wellShaped
  cases opened with
  | table t h rs => simp [Expr.isFilled, Expr.unrestricted, Fragment.isFiltered]
  | project rs input header =>
    have filtered : Fragment.isFiltered _ = _ := ends
    have restricted : rs.isEmpty = false := List.isEmpty_eq_false_iff.mpr some
    rw [Expr.isFilled, restricted, Bool.false_or, Bool.or_eq_true, hasColumns_iff heading,
      ← filtered, Bool.not_eq_true', Bool.or_eq_true]
    constructor
    · refine fun h => ⟨rfl, ?_⟩
      rintro (aliased | continued)
      · exact Header.names_ne_nil_of_hasAliases aliased
      · exact h.resolve_left (Bool.not_eq_false _ ▸ continued)
    · rintro ⟨-, enclosed⟩
      exact (Bool.eq_false_or_eq_true _).symm.imp_right fun continued => enclosed (.inr continued)
  | aggregate rs input grouping aggregated =>
    have aliased : _ = true := (aggregate_cases aggregated).2.1
    exact (and_iff_left fun _ => Header.names_ne_nil_of_hasAliases aliased).symm
  | join rs left right joined =>
    obtain ⟨-, resolved⟩ := shaped.plain rfl trivial
    have filtered : Fragment.isFiltered _ = false := ends
    rw [resolved, filtered]
    refine (and_iff_left fun enclosed => ?_).symm
    cases enclosed

/-- The lists of an outcome are filled if and only if all operators that appear have enough columns.
Only an expression whose columns are listed must have some itself. -/
def Outcome.Filled : Outcome → Prop
  | .opened e c =>
    "" ∉ c.source.columnLists ↔ e.unrestricted.isFilled = true ∧ AreFilled e.appearingInputs
  | .restricted e c => "" ∉ c.source.columnLists ↔ AreFilled e.appearing
  | .compiled mode e c =>
    match mode with
    | .derived => "" ∉ c.source.columnLists ↔ e.hasColumns = true ∧ AreFilled e.appearing
    | .never | .aliased => "" ∉ c.source.columnLists ↔ AreFilled e.appearing
    | .aggregate => True
  | .condition h _ r w =>
    "" ∉ w.toList.flatMap Cond.columnLists ↔ AreFilled (r.appearing h.settle)
  | .operands h rs cs | .conditions h _ rs cs =>
    "" ∉ cs.flatMap Cond.columnLists ↔ AreFilled (appearingAll h.settle rs)

/-- A table has columns, and a join has those of its sides. -/
theorem hasColumns_of_plain {e : Expr} {c : Compiled} {ctx ctx' : Context}
    (opened : Derives ctx (.opened e c) ctx') (tables : e.IsListable) (plain : e.isPlain = true)
    (filled : e.isFilled = true) : e.hasColumns = true := by
  have heading : e.heading = .ok c.header.settle := opened.headed
  rw [hasColumns_iff heading]
  cases opened with
  | table t h rs =>
    rw [Header.names_stripAliases]
    exact tables.1.1
  | join rs left right joined =>
    obtain ⟨columns, -⟩ := Bool.and_eq_true_iff.mp filled
    obtain ⟨name, hn⟩ := List.exists_mem_of_ne_nil _ ((hasColumns_iff left.headed).mp columns)
    exact List.ne_nil_of_mem ((Header.mem_names_join_iff (join_cases joined).1).mpr (.inl hn))
  | project rs input header => cases plain
  | aggregate rs input grouping aggregated => cases plain

theorem Derives.filled {ctx ctx' : Context} {o : Outcome} (h : Derives ctx o ctx')
    (tables : o.IsListable) : o.Filled := by
  induction h with
  | table t h rs => exact iff_of_true List.not_mem_nil ⟨rfl, areFilled_nil⟩
  | project rs _ _ ih => exact (ih tables.1).trans (and_iff_right rfl).symm
  | @aggregate _ _ _ e g c d a specs rs input grouping aggregated ihc ihd =>
    have ihc : _ ↔ e.hasColumns = true ∧ AreFilled e.appearing := ihc tables.1
    have ihd : _ ↔ g.hasColumns = true ∧ AreFilled g.appearing := ihd tables.2.1
    have named : "" ∉ c.header.primaryKey := fun hn =>
      input.named tables.1 (c.header.primaryKey_subset_names hn)
    rw [Outcome.Filled, (aggregate_cases aggregated).2.2, Fragment.columnLists,
      Fragment.columnLists, List.mem_cons, not_or, eq_comm, nameList_eq_empty_iff named,
      List.mem_append, not_or, ihc, ihd, ← Ne, ← hasKey_iff input.headed]
    show _ ↔ (e.hasKey && g.hasColumns) = true ∧ AreFilled (e.appearing ++ g.appearing)
    rw [areFilled_append, Bool.and_eq_true]
    constructor
    · rintro ⟨key, ⟨-, left⟩, columns, right⟩
      exact ⟨⟨key, columns⟩, left, right⟩
    · rintro ⟨⟨key, columns⟩, left, right⟩
      exact ⟨key, ⟨Expr.hasColumns_of_hasKey key, left⟩, columns, right⟩
  | @join _ _ _ l r c d j rs left right joined ihl ihr =>
    have ihl : _ ↔ l.hasColumns = true ∧ AreFilled l.appearing := ihl tables.1
    have ihr : _ ↔ r.hasColumns = true ∧ AreFilled r.appearing := ihr tables.2.1
    rw [Outcome.Filled, (join_cases joined).2, Fragment.columnLists, List.mem_append, not_or, ihl,
      ihr]
    show _ ↔ (l.hasColumns && r.hasColumns) = true ∧ AreFilled (l.appearing ++ r.appearing)
    rw [areFilled_append, Bool.and_eq_true, and_and_and_comm]
  | @unrestricted _ _ e c opened none ih =>
    have heading : e.heading = .ok c.header.settle := opened.headed
    have ih : _ ↔ _ := ih tables
    rw [Outcome.Filled, ih, appearing_eq, underHeading_of_eq heading, none, appearingAll,
      List.append_nil, areFilled_cons, unrestricted_of_none none]
  | @restricted _ _ _ _ e c d cs opened some ready _ ih ihcs =>
    have heading : e.heading = .ok c.header.settle := opened.headed
    have ih : _ ↔ _ := ih tables
    have ihcs : _ ↔ _ := ihcs tables.restrictions
    rw [Outcome.Filled, filled_filter, filled_enclosed ready (opened.named tables), ih, ihcs,
      appearing_eq, underHeading_of_eq heading, areFilled_cons, areFilled_append,
      isFilled_iff_of_opened opened some, settle_header_of_enclosed ready]
    constructor
    · rintro ⟨⟨enclosed, itself, inputs⟩, clauses⟩
      exact ⟨⟨itself, enclosed⟩, inputs, clauses⟩
    · rintro ⟨⟨itself, enclosed⟩, inputs, clauses⟩
      exact ⟨⟨enclosed, itself, inputs⟩, clauses⟩
  | @compiled _ _ _ mode e c d restricted finished ih =>
    have heading : e.heading = .ok c.header.settle := restricted.headed
    have ih : "" ∉ c.source.columnLists ↔ AreFilled e.appearing := ih tables
    have lists := filled_enclosed finished (restricted.named tables)
    cases mode with
    | never =>
      refine lists.trans ((and_iff_right fun needed => ?_).trans ih)
      cases needed
    | aliased => exact lists.trans ((and_iff_right Header.names_ne_nil_of_hasAliases).trans ih)
    | derived =>
      show "" ∉ d.source.columnLists ↔ _
      rw [lists, ih, hasColumns_iff heading]
      refine and_congr_left fun filled => ⟨fun listed => ?_, fun columns _ => columns⟩
      cases needed : Enclosure.demands .derived e c with
      | true => exact listed needed
      | false =>
        -- The columns of tables and joins are not listed here, but they have some.
        obtain ⟨plain, none⟩ := Bool.or_eq_false_iff.mp needed
        cases restricted with
        | unrestricted opened _ =>
          rw [appearing_eq, areFilled_cons] at filled
          rw [← hasColumns_iff heading]
          exact hasColumns_of_plain opened tables (by simpa using plain) filled.1
        | restricted _ some => exact absurd (by simpa using none) some
    | aggregate => trivial
  | sql h negated text =>
    refine iff_of_true ?_ areFilled_nil
    simp [Cond.columnLists]
  | tuples condition =>
    refine iff_of_true (fun hm => ?_) areFilled_nil
    obtain ⟨c, hc, hm⟩ := List.mem_flatMap.mp hm
    rw [(isSimple_of_tuples condition c (Option.mem_toList.mp hc)).columnLists_eq_nil] at hm
    cases hm
  | @semijoin _ _ _ h negated e c d input ready ih =>
    have heading : e.heading = .ok c.header.settle := input.headed
    have ih : _ ↔ e.hasColumns = true ∧ AreFilled e.appearing := ih tables.2
    have named : "" ∉ c.header.names := input.named tables.2
    have enclosed : "" ∉ d.header.names := by rwa [names_of_enclosed ready]
    rw [Outcome.Filled, filled_condition enclosed, filled_enclosed ready named, ih,
      sharesColumn_of_enclosed h ready, Restriction.appearing, onHeading_of_eq heading,
      sharesColumn_settle]
    cases shared : h.sharesColumn c.header with
    | false =>
      refine iff_of_true (fun effective => ?_) areFilled_nil
      cases effective
    | true =>
      -- A relation that is matched has the columns in which it is matched.
      have columns := Header.names_ne_nil_of_sharesColumn shared
      rw [hasColumns_iff heading, if_pos rfl]
      exact ⟨fun filled => (filled rfl).2.2, fun filled _ => ⟨fun _ => columns, columns, filled⟩⟩
  | union negated _ ih =>
    have ih : _ ↔ _ := ih tables.2
    rw [Outcome.Filled, Option.toList_some, List.flatMap_singleton, columnLists_bracket,
      columnLists_disj, ih]
    rfl
  | complement negated _ ih =>
    have ih : _ ↔ _ := ih ⟨tables.2, trivial⟩
    rw [Outcome.Filled, Option.toList_some, List.flatMap_singleton, columnLists_bracket,
      ← List.flatMap_singleton Cond.columnLists, ih, appearingAll, appearingAll, List.append_nil]
    rfl
  | noOperands h => exact iff_of_true List.not_mem_nil areFilled_nil
  | loneMarker _ ih => exact ih tables.2
  | @operand _ _ _ h r rs w cs _ _ ihw ihcs =>
    have ihw : _ ↔ _ := ihw tables.1
    have ihcs : _ ↔ _ := ihcs tables.2
    rw [Outcome.Filled, List.flatMap_cons, columnLists_getD, List.mem_append, not_or, ihw, ihcs,
      appearingAll, areFilled_append]
  | noConditions h negated => exact iff_of_true List.not_mem_nil areFilled_nil
  | marker negated _ ih => exact ih tables.2
  | @clause _ _ _ h negated r rs w cs _ _ ihw ihcs =>
    have ihw : _ ↔ _ := ihw tables.1
    have ihcs : _ ↔ _ := ihcs tables.2
    rw [Outcome.Filled, List.flatMap_append, List.mem_append, not_or, ihw, ihcs, appearingAll,
      areFilled_append]

/-! ### Tables with keys -/

/-- Keys are never lost: an expression over tables with keys has one. -/
theorem primaryKey_heading_ne_nil {e : Expr} {h : Header}
    (keyed : e.Everywhere (fun _ h => h.primaryKey ≠ []) (fun _ => True))
    (heading : e.heading = .ok h) : h.primaryKey ≠ [] := by
  match e with
  | .table t k rs =>
    cases pure_eq_ok.mp heading
    rw [Header.primaryKey_settle]
    exact keyed.1
  | .project e specs _ | .aggregate e _ specs _ =>
    obtain ⟨k, hk, heading⟩ := bind_eq_ok.mp heading
    obtain ⟨m, hm, heading⟩ := bind_eq_ok.mp heading
    cases pure_eq_ok.mp heading
    rw [Header.primaryKey_settle]
    exact Header.primaryKey_project_ne_nil hm (primaryKey_heading_ne_nil keyed.1 hk)
  | .join l r rs =>
    obtain ⟨k, hk, heading⟩ := bind_eq_ok.mp heading
    obtain ⟨m, -, heading⟩ := bind_eq_ok.mp heading
    obtain ⟨name, hn⟩ := List.exists_mem_of_ne_nil _ (primaryKey_heading_ne_nil keyed.1 hk)
    exact List.ne_nil_of_mem ((Header.mem_primaryKey_join_iff heading).mpr (.inl hn))
  | .union rs => cases heading
  | .negation e => cases heading
termination_by structural e

theorem Expr.hasKey_of_keyed {e : Expr}
    (keyed : e.Everywhere (fun _ h => h.primaryKey ≠ []) (fun _ => True)) : e.hasKey = true := by
  unfold hasKey onHeading
  split
  · simpa using primaryKey_heading_ne_nil keyed ‹_›
  · rfl

theorem isFilled_of_keyed {e : Expr}
    (keyed : e.Everywhere (fun _ h => h.primaryKey ≠ []) (fun _ => True)) :
    e.isFilled = true := by
  cases e with
  | table t h rs => rfl
  | project e specs rs =>
    rw [Expr.isFilled, Expr.hasColumns_of_hasKey (Expr.hasKey_of_keyed keyed), Bool.or_true]
  | aggregate e g specs rs =>
    have columns := Expr.hasColumns_of_hasKey (Expr.hasKey_of_keyed keyed.2.1)
    rw [Expr.isFilled, Expr.hasKey_of_keyed keyed.1, columns]
    rfl
  | join l r rs =>
    have left := Expr.hasColumns_of_hasKey (Expr.hasKey_of_keyed keyed.1)
    have right := Expr.hasColumns_of_hasKey (Expr.hasKey_of_keyed keyed.2.1)
    rw [Expr.isFilled, left, right]
    rfl
  | union rs => rfl
  | negation e => rfl

/-- **Which statements have a column in every list.** All lists are filled if and only if the
expression has columns and all operators that appear in the statement have enough of them. This is
the case for all expressions over tables with keys. -/
theorem filled_columnLists_statement {e : Expr} {suffix : String} {s : Statement}
    {ctx ctx' : Context} (tables : e.IsListable)
    (hr : (e.statement suffix).Returns ctx s ctx') :
    ("" ∉ s.columnLists ↔ e.hasColumns = true ∧ ∀ f ∈ e.appearing, f.isFilled = true) ∧
      (e.Everywhere (fun _ h => h.primaryKey ≠ []) (fun _ => True) → "" ∉ s.columnLists) := by
  obtain ⟨c, ctx₁, hc, hr⟩ := returns_bind.mp hr
  obtain ⟨rfl, rfl⟩ := returns_pure.mp hr
  have derived := derives_of_returns hc
  have lists : "" ∉ c.source.columnLists ↔ AreFilled e.appearing := derived.filled tables
  have filled : "" ∉ (c.statement suffix).columnLists ↔
      e.hasColumns = true ∧ AreFilled e.appearing := by
    show "" ∉ selectList c.columns :: c.source.columnLists ↔ _
    rw [List.mem_cons, not_or, eq_comm, selectList_columns (derived.named tables), lists,
      hasColumns_iff derived.headed]
  refine ⟨filled, fun keyed => filled.mpr ⟨?_, fun f hf => ?_⟩⟩
  · exact Expr.hasColumns_of_hasKey (Expr.hasKey_of_keyed keyed)
  · exact isFilled_of_keyed (everywhere_of_appearing keyed f hf)

namespace Sample

/-- Readings of sessions, which have no key. -/
def readings (rs : List Restriction) : Expr :=
  .table ⟨"reading", "lab", by decide⟩ ⟨[column "id" false, column "value" false], by decide⟩ rs

/-- The mean of the readings of each session that has positive ones. -/
def means : Expr :=
  .aggregate (.join (sessions []) (readings []) [])
    (.project (readings [.sql "value > 0"]) ["id"] []) ["avg(value)->mean"]
    [.semijoin (.project (readings []) ["id"] [])]

theorem isListable_readings : (readings []).IsListable := ⟨by decide, trivial⟩

theorem isListable_means : means.IsListable := by
  refine ⟨⟨⟨by decide, trivial⟩, isListable_readings, trivial⟩, ?_, ⟨?_, trivial⟩⟩
  · exact ⟨⟨by decide, trivial, trivial⟩, trivial⟩
  · exact ⟨trivial, isListable_readings, trivial⟩

theorem filled_columnLists_means :
    means.IsListable ∧ ∃ s ctx, (means.statement "").Returns {} s ctx ∧
      (("" ∉ s.columnLists ↔
          means.hasColumns = true ∧ ∀ f ∈ means.appearing, f.isFilled = true) ∧
        (means.Everywhere (fun _ h => h.primaryKey ≠ []) (fun _ => True) → "" ∉ s.columnLists)) ∧
      means.hasColumns = true ∧ ∀ f ∈ means.appearing, f.isFilled = true :=
  have hr : (means.statement "").Returns {} _ _ := rfl
  ⟨isListable_means, _, _, hr, filled_columnLists_statement isListable_means hr, by decide,
    by decide⟩

/-- The number of sessions that each reading belongs to; there is no key to group by. -/
def readingCounts : Expr := .aggregate (readings []) (sessions []) ["count(*)->n"] []

theorem isListable_readingCounts : readingCounts.IsListable :=
  ⟨isListable_readings, ⟨by decide, trivial⟩, trivial⟩

/-- Without a key, nothing is left to group by, and nothing to select for an empty projection. -/
theorem not_filled_columnLists_readings :
    (readingCounts.IsListable ∧ ∃ s ctx, (readingCounts.statement "").Returns {} s ctx ∧
        "" ∈ s.columnLists) ∧
      (Expr.project (readings []) [] []).IsListable ∧
        ∃ s ctx, ((Expr.project (readings []) [] []).statement "").Returns {} s ctx ∧
          "" ∈ s.columnLists ∧ s.render = "SELECT  FROM `lab`.`reading`" :=
  ⟨⟨isListable_readingCounts, _, _, rfl, by decide⟩, ⟨isListable_readings, trivial⟩, _, _, rfl,
    by decide, by decide⟩

end Sample

end Relational

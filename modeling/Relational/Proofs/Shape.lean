import Relational.Proofs.Header
import Relational.Sql.Render

/-!
# The shape of compiled fragments

A chain is one or more items joined by `NATURAL JOIN`, each a table or an aliased subquery. A
`SELECT` level is a chain followed by at most one `WHERE` or by one `GROUP BY`, and so is every
subquery inside it. `compile_shape` says which of these shapes each consumer gets.
-/

namespace Relational

namespace Sql

mutual

/-- A table, or a subquery in parentheses with its alias. -/
inductive IsItem : Fragment → Prop
  | table (t : TableRef) : IsItem (.table t)
  | subquery {source : Fragment} (columns : List Column) (aliasName : String)
    (level : IsLevel source) : IsItem (.derived columns source aliasName)

/-- One or more items, joined. -/
inductive IsChain : Fragment → Prop
  | item {f : Fragment} (item : IsItem f) : IsChain f
  | join {l r : Fragment} (left : IsChain l) (right : IsChain r) : IsChain (.join l r)

/-- A chain, followed by at most one `WHERE`. -/
inductive IsSelection : Fragment → Prop
  | chain {f : Fragment} (chain : IsChain f) : IsSelection f
  | filter {f : Fragment} {c : Cond} (chain : IsChain f) (condition : IsProper c) :
    IsSelection (.filter f c)

/-- What a `SELECT` reads from: a chain, followed by at most one `WHERE` or by one `GROUP BY`. -/
inductive IsLevel : Fragment → Prop
  | selection {f : Fragment} (selection : IsSelection f) : IsLevel f
  | group {f : Fragment} (columns : List String) (chain : IsChain f) : IsLevel (.group f columns)

/-- Every subquery of a condition is a level. -/
inductive IsProper : Cond → Prop
  | raw (text : String) : IsProper (.raw text)
  | constant (b : Bool) : IsProper (.constant b)
  | isNull (field : String) : IsProper (.isNull field)
  | equal (field : String) (literal : Literal) : IsProper (.equal field literal)
  | conj {cs : List Cond} (all : ∀ c ∈ cs, IsProper c) : IsProper (.conj cs)
  | disj {cs : List Cond} (all : ∀ c ∈ cs, IsProper c) : IsProper (.disj cs)
  | paren {c : Cond} (inner : IsProper c) : IsProper (.paren c)
  | not {c : Cond} (inner : IsProper c) : IsProper (.not c)
  | within {source : Fragment} (columns : List String) (negated : Bool)
    (level : IsLevel source) : IsProper (.within columns negated source)

end

/-- A condition made of comparisons with literals, without subqueries. -/
inductive IsSimple : Cond → Prop
  | constant (b : Bool) : IsSimple (.constant b)
  | isNull (field : String) : IsSimple (.isNull field)
  | equal (field : String) (literal : Literal) : IsSimple (.equal field literal)
  | conj {cs : List Cond} (all : ∀ c ∈ cs, IsSimple c) : IsSimple (.conj cs)
  | disj {cs : List Cond} (all : ∀ c ∈ cs, IsSimple c) : IsSimple (.disj cs)
  | paren {c : Cond} (inner : IsSimple c) : IsSimple (.paren c)
  | not {c : Cond} (inner : IsSimple c) : IsSimple (.not c)

theorem IsSimple.isProper {c : Cond} (h : IsSimple c) : IsProper c := by
  induction h with
  | constant b => exact .constant b
  | isNull field => exact .isNull field
  | equal field literal => exact .equal field literal
  | conj _ ih => exact .conj ih
  | disj _ ih => exact .disj ih
  | paren _ ih => exact .paren ih
  | not _ ih => exact .not ih

/-- What follows the chain of a level. -/
def Fragment.clauseText : Fragment → String
  | .filter _ c => " WHERE " ++ c.render
  | .group _ columns => " GROUP BY " ++ nameList columns
  | _ => ""

theorem joinWith_append {separator : String} {ss ts : List String} (hs : ss ≠ []) (ht : ts ≠ []) :
    Text.joinWith separator (ss ++ ts) =
      Text.joinWith separator ss ++ separator ++ Text.joinWith separator ts := by
  induction ss with
  | nil => exact absurd rfl hs
  | cons s ss ih =>
    cases ss with
    | nil =>
      cases ts with
      | nil => exact absurd rfl ht
      | cons t ts => rfl
    | cons s' ss =>
      simp only [List.cons_append, Text.joinWith_cons_cons] at ih ⊢
      rw [ih (by simp)]
      simp only [String.append_assoc]

/-- The text of a chain lists its items, however its joins are nested. -/
theorem IsChain.render_eq {f : Fragment} (h : IsChain f) :
    ∃ items : List Fragment, items ≠ [] ∧ (∀ i ∈ items, IsItem i) ∧
      f.render = Text.joinWith " NATURAL JOIN " (items.map Fragment.render) := by
  match h with
  | .item (f := f) hi => exact ⟨[f], by simp, by simpa using hi, rfl⟩
  | .join (l := l) (r := r) hl hr =>
    obtain ⟨ls, hls, hli, el⟩ := hl.render_eq
    obtain ⟨rs, hrs, hri, er⟩ := hr.render_eq
    refine ⟨ls ++ rs, by simp [hls], ?_, ?_⟩
    · intro i hi
      exact (List.mem_append.mp hi).elim (hli i) (hri i)
    · rw [Fragment.render, el, er, List.map_append, joinWith_append (by simpa) (by simpa)]

/-- The text of a level is that of a chain, followed by its only clause. -/
theorem IsLevel.render_eq {f : Fragment} (h : IsLevel f) :
    ∃ items : List Fragment, items ≠ [] ∧ (∀ i ∈ items, IsItem i) ∧
      f.render = Text.joinWith " NATURAL JOIN " (items.map Fragment.render) ++ f.clauseText := by
  match h with
  | .selection (.chain hc) =>
    obtain ⟨items, hne, hi, e⟩ := hc.render_eq
    refine ⟨items, hne, hi, ?_⟩
    match hc with
    | .item (.table t) => simp [e, Fragment.clauseText]
    | .item (.subquery columns aliasName hl) => simp [e, Fragment.clauseText]
    | .join hl hr => simp [e, Fragment.clauseText]
  | .selection (.filter (c := c) hc _) =>
    obtain ⟨items, hne, hi, e⟩ := hc.render_eq
    exact ⟨items, hne, hi, by rw [Fragment.render, e, Fragment.clauseText, String.append_assoc]⟩
  | .group columns hc =>
    obtain ⟨items, hne, hi, e⟩ := hc.render_eq
    exact ⟨items, hne, hi, by rw [Fragment.render, e, Fragment.clauseText, String.append_assoc]⟩

/-- A selection without a clause is a chain. -/
theorem IsSelection.isChain {f : Fragment} (h : IsSelection f) (hf : f.isFiltered = false) :
    IsChain f := by
  cases h with
  | chain hc => exact hc
  | filter hc hp => cases hf

theorem isProper_bracket {negated : Bool} {c : Cond} (h : IsProper c) :
    IsProper (bracket negated c) := by
  cases negated with
  | false => exact .paren h
  | true => exact .not h

theorem isSimple_of_mem_emptyRestrictor {negated common : Bool} {c : Cond}
    (h : c ∈ emptyRestrictor negated common) : IsSimple c := by
  unfold emptyRestrictor at h
  split at h
  · cases h
  · cases h
    exact .constant false

end Sql

open Sql

section Tuples

variable {h : Header}

theorem isSimple_of_encodeRecord {r : Record} {c : Cond} (he : encodeRecord h r = .ok c) :
    IsSimple c := by
  obtain ⟨-, rfl⟩ | ⟨cs, -, pairs, rfl⟩ := encodeRecord_cases he
  · exact .constant true
  · refine .conj fun d hd => ?_
    obtain ⟨⟨k, v⟩, -, hkv⟩ := exists_of_mem_right pairs hd
    obtain ⟨field, a, -, -, ⟨-, -, rfl⟩ | ⟨-, l, -, rfl⟩⟩ := encodeEntry_cases hkv
    · exact .isNull field
    · exact .equal field l

theorem isSimple_of_encodeRecords {rs : List Record} {c : Cond}
    (he : encodeRecords h rs = .ok c) : IsSimple c := by
  obtain ⟨cs, pairs, hc⟩ := encodeRecords_cases he
  have simple : ∀ d ∈ cs, IsSimple d := by
    intro d hd
    obtain ⟨r, -, hr⟩ := exists_of_mem_right pairs hd
    exact isSimple_of_encodeRecord hr
  obtain ⟨-, rfl⟩ | ⟨-, rfl⟩ := hc
  · exact simple c (by simp)
  · exact .disj simple

/-- The condition of a tuple set has no subqueries. -/
theorem isSimple_of_tuples {t : TupleSet} {negated : Bool} {w : Option Cond} {ctx ctx' : Context}
    (hr : (t.condition h negated).Returns ctx w ctx') : ∀ c ∈ w, IsSimple c := by
  obtain ⟨-, ⟨-, rfl⟩ | ⟨-, -, rfl⟩ | ⟨-, -, c, hc, rfl⟩⟩ := TupleSet.condition_cases hr
  · exact fun c hc => isSimple_of_mem_emptyRestrictor hc
  · exact fun c hc => isSimple_of_mem_emptyRestrictor hc
  · have simple := isSimple_of_encodeRecords hc
    rintro d ⟨⟩
    split
    · cases negated with
      | false => exact .paren simple
      | true => exact .not simple
    · exact simple

end Tuples

/-- The shape of a fragment that a consumer gets, and whether its header may have aliases. -/
def Enclosure.Shape : Enclosure → Compiled → Prop
  | .derived, c => IsChain c.source ∧ c.header.hasAliases = false
  | .aliased, c => IsSelection c.source ∧ c.header.hasAliases = false
  | .aggregate, c => IsSelection c.source
  | .never, c => IsLevel c.source

/-- The shape of the fragment of an operator: only aggregations group, their headers have aliases,
and tables and joins are chains as long as they are not restricted. -/
structure Shaped (e : Expr) (c : Compiled) (unrestricted : Prop) : Prop where
  level : IsLevel c.source
  resolved : c.header.hasAliases = false → IsSelection c.source
  ungrouped : e.isGrouped = false → IsSelection c.source
  plain : e.isPlain = true → unrestricted → IsChain c.source ∧ c.header.hasAliases = false

/-- What the shapes of all outcomes have in common. -/
def Outcome.WellShaped : Outcome → Prop
  | .opened e c => Shaped e c True
  | .restricted e c => Shaped e c (e.restrictions = [])
  | .compiled mode _ c => mode.Shape c
  | .condition _ _ _ w => ∀ c ∈ w, IsProper c
  | .operands _ _ cs | .conditions _ _ _ cs => ∀ c ∈ cs, IsProper c

theorem isChain_enclose {c : Compiled} (h : IsLevel c.source) (aliasName : String) :
    IsChain (c.enclose aliasName).source :=
  .item (.subquery _ _ h)

/-- A clause is only added to a chain without aliases: all other fragments are enclosed before. -/
theorem isChain_of_ready {e : Expr} {c d : Compiled} {kind : AliasKind} {ctx ctx' : Context}
    (shaped : Shaped e c True)
    (ready : Enclosed (c.header.hasAliases || c.source.isFiltered) kind ctx c d ctx') :
    IsChain d.source ∧ d.header.hasAliases = false := by
  cases ready with
  | kept h =>
    obtain ⟨ha, hf⟩ := Bool.or_eq_false_iff.mp h
    exact ⟨(shaped.resolved ha).isChain hf, ha⟩
  | wrapped _ => exact ⟨isChain_enclose shaped.level _, Header.hasAliases_stripAliases _⟩

theorem isSelection_filter {c : Compiled} (h : IsChain c.source) {cs : List Cond}
    (proper : ∀ c ∈ cs, IsProper c) : IsSelection (c.filter (conjunction cs)).source := by
  cases cs with
  | nil => exact .chain h
  | cons d ds => exact .filter h (.conj proper)

theorem header_filter (c : Compiled) (w : Option Cond) : (c.filter w).header = c.header := by
  cases w <;> rfl

/-- The relation of an aggregation is grouped and has aliases. -/
theorem aggregate_cases {c g a : Compiled} {specs : List String}
    (h : c.aggregate g specs = .ok a) :
    c.header.project specs = .ok a.header ∧ a.header.hasAliases = true ∧
      a.source = .group (.join c.source g.source) c.header.primaryKey := by
  unfold Compiled.aggregate at h
  split at h
  · obtain ⟨k, hk, h⟩ := bind_eq_ok.mp h
    split at h
    · cases pure_eq_ok.mp h
      exact ⟨hk, ‹_›, rfl⟩
    · cases h
  · cases h

theorem join_cases {c d j : Compiled} (h : c.join d = .ok j) :
    c.header.join d.header = .ok j.header ∧ j.source = .join c.source d.source := by
  obtain ⟨k, hk, h⟩ := bind_eq_ok.mp h
  cases pure_eq_ok.mp h
  exact ⟨hk, rfl⟩

/-- The shape of a restricted fragment decides which consumers can have it as it is. -/
theorem shape_of_finished {mode : Enclosure} {e : Expr} {c d : Compiled} {ctx ctx' : Context}
    (shaped : Shaped e c (e.restrictions = []))
    (finished : Enclosed (mode.demands e c) .enclosed ctx c d ctx') : mode.Shape d := by
  cases finished with
  | kept h =>
    cases mode with
    | never => exact shaped.level
    | aliased => exact ⟨shaped.resolved h, h⟩
    | derived =>
      obtain ⟨plain, unrestricted⟩ := Bool.or_eq_false_iff.mp h
      exact shaped.plain (by simpa using plain) (by simpa using unrestricted)
    | aggregate => exact shaped.ungrouped h
  | wrapped _ =>
    have chain := isChain_enclose shaped.level
      (freshAlias ctx.stem AliasKind.enclosed.letter ctx.next)
    have resolved := Header.hasAliases_stripAliases c.header
    cases mode with
    | never => exact .selection (.chain chain)
    | aliased => exact ⟨.chain chain, resolved⟩
    | derived => exact ⟨chain, resolved⟩
    | aggregate => exact .chain chain

theorem isProper_of_mem_condition {c : Compiled} (h : IsLevel c.source) {k : Header}
    {negated : Bool} {w : Cond} (hw : w ∈ c.condition k negated) : IsProper w := by
  unfold Compiled.condition at hw
  split at hw
  · exact (isSimple_of_mem_emptyRestrictor hw).isProper
  · cases hw
    exact .within _ _ h

/-- Every outcome is well shaped. -/
theorem Derives.wellShaped {ctx ctx' : Context} {o : Outcome} (h : Derives ctx o ctx') :
    o.WellShaped := by
  induction h with
  | table t h rs =>
    have chain : IsChain (Fragment.table t) := .item (.table t)
    exact ⟨.selection (.chain chain), fun _ => .chain chain, fun _ => .chain chain,
      fun _ _ => ⟨chain, Header.hasAliases_stripAliases h⟩⟩
  | project rs _ _ ih =>
    obtain ⟨selection, -⟩ := ih
    exact ⟨.selection selection, fun _ => selection, fun _ => selection, fun h => (nomatch h)⟩
  | aggregate rs _ _ aggregated ihc ihd =>
    obtain ⟨-, aliased, source⟩ := aggregate_cases aggregated
    refine ⟨?_, ?_, fun h => (nomatch h), fun h => (nomatch h)⟩
    · rw [source]
      exact .group _ (.join ihc.1 ihd.1)
    · intro h
      rw [aliased] at h
      cases h
  | @join _ _ _ _ _ _ _ j rs _ _ joined ihc ihd =>
    obtain ⟨header, source⟩ := join_cases joined
    have chain : IsChain j.source := by
      rw [source]
      exact .join ihc.1 ihd.1
    exact ⟨.selection (.chain chain), fun _ => .chain chain, fun _ => .chain chain,
      fun _ _ => ⟨chain, Header.hasAliases_join header ihc.2 ihd.2⟩⟩
  | unrestricted _ none ih =>
    exact ⟨ih.level, ih.resolved, ih.ungrouped, fun h _ => ih.plain h trivial⟩
  | restricted _ some ready _ ih ihcs =>
    obtain ⟨chain, resolved⟩ := isChain_of_ready ih ready
    have selection := isSelection_filter chain ihcs
    exact ⟨.selection selection, fun _ => selection, fun _ => selection,
      fun _ h => absurd h some⟩
  | compiled _ finished ih => exact shape_of_finished ih finished
  | sql h negated text =>
    rintro c ⟨⟩
    exact isProper_bracket (.raw text)
  | tuples condition => exact fun c hc => (isSimple_of_tuples condition c hc).isProper
  | semijoin h negated _ ready ih =>
    have level : IsLevel _ := .selection (.chain ih.1)
    cases ready with
    | kept _ => exact fun w hw => isProper_of_mem_condition level hw
    | wrapped _ =>
      exact fun w hw => isProper_of_mem_condition
        (.selection (.chain (isChain_enclose level _))) hw
  | union negated _ ih =>
    rintro c ⟨⟩
    exact isProper_bracket (.disj ih)
  | complement negated _ ih =>
    rintro c ⟨⟩
    exact isProper_bracket (ih _ (by simp))
  | noOperands h => exact fun c hc => nomatch hc
  | loneMarker _ ih =>
    intro c hc
    rcases List.mem_cons.mp hc with rfl | hc
    · exact .constant true
    · exact ih c hc
  | @operand _ _ _ _ _ _ w _ _ _ ihw ihcs =>
    intro c hc
    rcases List.mem_cons.mp hc with rfl | hc
    · cases w with
      | none => exact .constant true
      | some d => exact ihw d rfl
    · exact ihcs c hc
  | noConditions h negated => exact fun c hc => nomatch hc
  | marker negated _ ih => exact ih
  | clause _ _ ihw ihcs =>
    intro c hc
    rcases List.mem_append.mp hc with hc | hc
    · exact ihw c (Option.mem_toList.mp hc)
    · exact ihcs c hc

end Relational

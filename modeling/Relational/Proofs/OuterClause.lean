import Relational.Proofs.Columns
import Relational.Proofs.Consumers
import Relational.Proofs.Exchange
import Relational.Proofs.Lexical

/-!
# The clause of a query

A query can be asked for its statement and for the clause of its outermost restrictions alone. The
clause is compiled once more for this, without the statement around it. Both agree: the statement is
that of the unrestricted relation with the clause behind it, unless the relation is enclosed first.
The enclosure takes an alias, so the clause in the statement is then the one that begins with the
next number.
-/

namespace Relational

open Sql

/-! ### Texts of conditions -/

namespace Sql

theorem render_bracket_ne_empty (negated : Bool) (c : Cond) : (bracket negated c).render ≠ "" := by
  cases negated <;> simp [bracket, Cond.render]

theorem render_constant_ne_empty (b : Bool) : (Cond.constant b).render ≠ "" := by
  cases b <;> simp [Cond.render]

theorem render_conj_eq_empty_iff {cs : List Cond} (filled : ∀ c ∈ cs, c.render ≠ "") :
    (Cond.conj cs).render = "" ↔ cs = [] := by
  have texts : "" ∉ cs.map Cond.render := by
    intro hm
    obtain ⟨c, hc, e⟩ := List.mem_map.mp hm
    exact filled c hc e
  rw [Cond.render, renderAll_eq_map, joinWith_eq_empty_iff texts, List.map_eq_nil_iff]

end Sql

theorem render_emptyRestrictor_ne_empty {negated common : Bool} {c : Cond}
    (hc : emptyRestrictor negated common = some c) : c.render ≠ "" := by
  unfold emptyRestrictor at hc
  split at hc
  · cases hc
  · cases hc
    exact render_constant_ne_empty false

theorem render_encodeRecord_ne_empty {h : Header} {r : Record} {c : Cond}
    (he : encodeRecord h r = .ok c) : c.render ≠ "" := by
  obtain ⟨-, rfl⟩ | ⟨cs, some, pairs, rfl⟩ := encodeRecord_cases he
  · exact render_constant_ne_empty true
  · refine mt (render_conj_eq_empty_iff fun d hd => ?_).mp some
    obtain ⟨⟨label, v⟩, -, entry⟩ := exists_of_mem_right pairs hd
    obtain ⟨field, a, -, -, ⟨-, -, rfl⟩ | ⟨-, l, -, rfl⟩⟩ := encodeEntry_cases entry
    · simp [Cond.render]
    · simp [Cond.render]

/-- Alternatives are bracketed, so only a single record has to be looked at. -/
theorem render_tuples_ne_empty {t : TupleSet} {h : Header} {negated : Bool} {c : Cond}
    {ctx ctx' : Context} (hr : (t.condition h negated).Returns ctx (some c) ctx') :
    c.render ≠ "" := by
  obtain ⟨-, ⟨-, none⟩ | ⟨-, -, none⟩ | ⟨-, records, d, encoded, e⟩⟩ := TupleSet.condition_cases hr
  · exact render_emptyRestrictor_ne_empty none.symm
  · exact render_emptyRestrictor_ne_empty none.symm
  · cases e
    split
    · exact render_bracket_ne_empty negated d
    · rename_i single
      obtain ⟨cs, pairs, ⟨-, rfl⟩ | ⟨several, -⟩⟩ := encodeRecords_cases encoded
      · obtain ⟨record, -, he⟩ := exists_of_mem_right pairs (List.mem_singleton_self d)
        exact render_encodeRecord_ne_empty he
      · simp [several] at single

theorem render_match_ne_empty {d : Compiled} {h : Header} {negated : Bool} {c : Cond}
    (hc : d.condition h negated = some c) : c.render ≠ "" := by
  unfold Compiled.condition at hc
  split at hc
  · exact render_emptyRestrictor_ne_empty hc
  · cases hc
    simp [Cond.render]

/-- Whatever a restriction is compiled to, it is not the empty text. -/
theorem render_condition_ne_empty {r : Restriction} {h : Header} {negated : Bool} {c : Cond}
    {ctx ctx' : Context} (hr : (r.condition h negated).Returns ctx (some c) ctx') :
    c.render ≠ "" := by
  cases r with
  | sql text =>
    obtain ⟨e, -⟩ := returns_pure.mp hr
    cases e
    exact render_bracket_ne_empty _ _
  | tuples t => exact render_tuples_ne_empty hr
  | semijoin e =>
    obtain ⟨d, ctx₁, -, hr⟩ := returns_bind.mp hr
    obtain ⟨d', ctx₂, -, hr⟩ := returns_bind.mp hr
    exact render_match_ne_empty (returns_pure.mp hr).1
  | marker _ => exact absurd hr not_returns_throw
  | union rs =>
    obtain ⟨cs, ctx₁, -, hr⟩ := returns_bind.mp hr
    obtain ⟨e, -⟩ := returns_pure.mp hr
    cases e
    exact render_bracket_ne_empty _ _
  | complement r =>
    obtain ⟨d, ctx₁, -, hr⟩ := returns_bind.mp hr
    obtain ⟨e, -⟩ := returns_pure.mp hr
    cases e
    exact render_bracket_ne_empty _ _

theorem render_conditions_ne_empty {rs : List Restriction} {h : Header} {negated : Bool}
    {cs : List Cond} {ctx ctx' : Context} (hr : (conditions h negated rs).Returns ctx cs ctx') :
    ∀ c ∈ cs, c.render ≠ "" := by
  induction rs generalizing negated cs ctx with
  | nil =>
    obtain ⟨rfl, -⟩ := returns_pure.mp hr
    exact List.forall_mem_nil _
  | cons r rs ih =>
    obtain ⟨-, rest⟩ | ⟨-, w, cs', ctx₁, first, rest, rfl⟩ := conditions_cons_of_returns hr
    · exact ih rest
    · refine List.forall_mem_append.mpr ⟨fun c hc => ?_, ih rest⟩
      rw [Option.mem_toList.mp hc] at first
      exact render_condition_ne_empty first

/-- A clause is written as the empty text only if there is none. -/
theorem renderClause_eq_empty_iff {h : Header} {rs : List Restriction} {w : Option Cond}
    {ctx ctx' : Context} (hr : (whereClause h rs).Returns ctx w ctx') :
    renderClause w = "" ↔ w = none := by
  obtain ⟨cs, hcs, rfl⟩ := conditions_of_returns_clauseOf hr
  have filled := render_conditions_ne_empty hcs
  cases cs with
  | nil => exact iff_of_true rfl rfl
  | cons c cs =>
    have some := mt (render_conj_eq_empty_iff filled).mp (List.cons_ne_nil c cs)
    exact iff_of_false some (Option.some_ne_none _)

/-! ### Statements -/

/-- A text with a `WHERE` clause behind it, unless the clause is empty. -/
def Sql.withWhere (body clause : String) : String :=
  if clause = "" then body else body ++ " WHERE " ++ clause

/-- The statement of a filtered relation is that of the relation with the clause behind it. -/
theorem render_statement_filter {h : Header} {rs : List Restriction} {w : Option Cond}
    {ctx ctx' : Context} (hr : (whereClause h rs).Returns ctx w ctx') (c : Compiled) :
    ((c.filter w).statement "").render = withWhere (c.statement "").render (renderClause w) := by
  have suffix : Text.strip "" = "" := by decide
  cases w with
  | none => exact (if_pos rfl).symm
  | some d =>
    have filled := mt (renderClause_eq_empty_iff hr).mp (Option.some_ne_none d)
    rw [withWhere, if_neg filled]
    simp only [Statement.render, Compiled.statement, Compiled.filter, Compiled.columns, suffix,
      if_true, Fragment.render, renderClause, Option.map_some, Option.getD_some,
      String.append_assoc]

theorem yields_sql {q : Query} {c : Compiled} {ctx : Context}
    (hc : (q.expr.compile .never).Returns {} c ctx) :
    q.sql.Yields (c.header.checkQuotable.map fun _ => (c.statement "").render) :=
  yields_bind (yields_compiling hc) (yields_map _ _)

theorem yields_clause {q : Query} {w : Option Cond} {ctx : Context}
    (hw : q.expr.outerClause.Returns {} w ctx) : q.clause.Yields (.ok (renderClause w)) :=
  yields_bind (yields_compiling hw) (yields_pure _)

theorem isFiltered_filter_iff {c : Compiled} (h : c.source.isFiltered = false) {w : Option Cond} :
    (c.filter w).source.isFiltered = false ↔ w = none := by
  cases w with
  | none => exact iff_of_true h rfl
  | some _ => exact iff_of_false Bool.false_ne_true.symm (Option.some_ne_none _)

/-- **The clause of a query agrees with its statement.** If a query with restrictions compiles, so
do the relation without them and the clause alone. The clause is empty if and only if no `WHERE` is
added. If the relation has neither aliases nor a clause of its own, the statement is that of the
relation with the clause behind it. Otherwise the relation is enclosed, and behind it stands the
clause as it is compiled with the next number, which differs in its aliases only. -/
theorem sql_eq_withWhere_clause {q : Query} {d : Compiled} {ctx : Context}
    (some : q.expr.restrictions ≠ []) (hd : (q.expr.compile .never).Returns {} d ctx) :
    q.sql.Yields (d.header.checkQuotable.map fun _ => (d.statement "").render) ∧
      ∃ c ctx₁ v,
        (q.expr.unrestricted.compile .never).Returns {} c ctx₁ ∧
        q.clause.Yields (.ok (renderClause v)) ∧
        (renderClause v = "" ↔ d.source.isFiltered = false) ∧
        (c.header.hasAliases = false → c.source.isFiltered = false →
          (d.statement "").render = withWhere (c.statement "").render (renderClause v)) ∧
        (c.header.hasAliases = true ∨ c.source.isFiltered = true →
          ∃ w, (whereClause c.header.stripAliases q.expr.restrictions).Returns
              { ctx₁ with next := ctx₁.next + 1 } w ctx ∧
            w.map Cond.unnamed = v.map Cond.unnamed ∧
            (d.statement "").render =
              withWhere ((c.enclose (freshAlias ctx₁.stem "s" ctx₁.next)).statement "").render
                (renderClause w)) := by
  refine ⟨yields_sql hd, ?_⟩
  obtain ⟨c, ctx₁, ready, ctx₂, w, hc, hready, hw, rfl⟩ := (returns_restricted_iff some).mp hd
  obtain ⟨v, ctx₃, hv, same⟩ := (agrees_whereClause _ _).exists_returns hw ctx₁
  have enclosed := enclosed_of_returns hready
  have alone : q.expr.outerClause.Returns {} v ctx₃ := returns_bind.mpr ⟨c, ctx₁, hc, hv⟩
  have empty : renderClause v = "" ↔ (ready.filter w).source.isFiltered = false := by
    rw [renderClause_eq_empty_iff hv, isFiltered_filter_iff (unfiltered_of_ready enclosed).2,
      ← Option.map_eq_none_iff, same, Option.map_eq_none_iff]
  refine ⟨c, ctx₁, v, hc, yields_clause alone, empty, ?_, ?_⟩
  · intro resolved unfiltered
    cases enclosed with
    | kept _ =>
      -- Both clauses are compiled in the same context.
      cases hv.symm.trans hw
      exact render_statement_filter hw c
    | wrapped needed => simp [resolved, unfiltered] at needed
  · intro needed
    cases enclosed with
    | kept none => simp [Bool.or_eq_false_iff.mp none] at needed
    | wrapped _ => exact ⟨w, hw, same.symm, render_statement_filter hw _⟩

namespace Sample

/-- The sessions that have a positive score and a second trial. -/
def repeated : Query where
  database := 0
  expr := .project (sessions [.sql "score > 0"]) [] [.semijoin (trials [.sql "trial > 1"])]

/-- The scores have a clause of their own, so the sessions are enclosed before they are matched. -/
theorem clause_repeated :
    repeated.expr.restrictions ≠ [] ∧ ∃ d ctx clause,
      (repeated.expr.compile .never).Returns {} d ctx ∧ repeated.clause.Yields (.ok clause) ∧
        (clause = "" ↔ d.source.isFiltered = false) ∧ d.source.isFiltered = true := by
  have some : repeated.expr.restrictions ≠ [] := List.cons_ne_nil _ _
  have hd : (repeated.expr.compile .never).Returns {} _ _ := rfl
  obtain ⟨-, -, -, v, -, alone, empty, -⟩ := sql_eq_withWhere_clause some hd
  exact ⟨some, _, _, renderClause v, hd, alone, empty, rfl⟩

example : (repeated.expr.outerClause.run.run {}).1.map renderClause = .ok ("((`id`) IN "
    ++ "(SELECT `id` FROM (SELECT `id`,`trial` FROM `lab`.`trial` WHERE (trial > 1)) AS `$a1`))") ∧
    ((repeated.expr.compile .never).run.run {}).1.map (fun d => d.source.render) =
      .ok ("(SELECT `id` FROM `lab`.`session` WHERE (score > 0)) AS `$s1` WHERE ((`id`) IN "
    ++ "(SELECT `id` FROM (SELECT `id`,`trial` FROM `lab`.`trial` WHERE (trial > 1)) AS `$a2`))") :=
  by decide +kernel

end Sample

end Relational

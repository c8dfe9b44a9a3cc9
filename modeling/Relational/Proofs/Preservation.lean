import Relational.Proofs.Conditions

/-!
# Compilation preserves meaning

The answer of a compiled statement is the relation of the expression. This needs a database that has
the tables as their headers describe them, opaque texts that speak of the attributes of their
relations only, and keys on the left of aggregations.
-/

namespace Relational

variable {V : Type} [DecidableEq V]

section Suits

variable (server : Server V) (db : Instance V)

mutual

/-- What an expression needs of a database and of the server. Headers of tables are plain, list the
columns of the table and have a key. The texts of an operator speak of the attributes of its inputs,
and those of restrictions of the attributes that they restrict. The left input of an aggregation
has no two rows with the same key. -/
def Expr.Suits : Expr → Prop
  | .table t h rs =>
    (∀ a ∈ h.attributes, a.aliasName = "" ∧ a.expression = none) ∧
      (∀ n, n ∈ h.names ↔ n ∈ db.columns t) ∧ h.primaryKey ≠ [] ∧ RestrictionsSuit h.names rs
  | .project e specs rs =>
    e.Suits ∧
      (∀ input, e.relation server db = .ok input →
        server.ScalarsWithin input.header.names specs) ∧
      ∀ rel, (Expr.project e specs []).relation server db = .ok rel →
        RestrictionsSuit rel.header.names rs
  | .aggregate e g specs rs =>
    e.Suits ∧ g.Suits ∧
      (∀ input grouping, e.relation server db = .ok input → g.relation server db = .ok grouping →
        input.IsKeyed ∧
          server.SummariesWithin (input.header.names ++ grouping.header.names) specs) ∧
      ∀ rel, (Expr.aggregate e g specs []).relation server db = .ok rel →
        RestrictionsSuit rel.header.names rs
  | .join l r rs =>
    l.Suits ∧ r.Suits ∧
      ∀ rel, (Expr.join l r []).relation server db = .ok rel → RestrictionsSuit rel.header.names rs
  | .union _ | .negation _ => True
termination_by structural e => e

/-- What a restriction on attributes with the given names needs. Unions are not empty. -/
def Restriction.Suits (names : List String) : Restriction → Prop
  | .sql text => server.ConditionWithin names text
  | .semijoin e => e.Suits
  | .union rs => rs ≠ [] ∧ RestrictionsSuit names rs
  | .complement r => r.Suits names
  | .tuples _ | .marker _ => True
termination_by structural r => r

/-- What several restrictions need. -/
def RestrictionsSuit (names : List String) : List Restriction → Prop
  | [] => True
  | r :: rs => r.Suits names ∧ RestrictionsSuit names rs
termination_by structural rs => rs

end

variable {server db}

theorem Expr.Suits.unrestricted {e : Expr} (h : e.Suits server db) :
    e.unrestricted.Suits server db := by
  cases e with
  | table t k rs =>
    obtain ⟨plain, columns, keyed, -⟩ := h
    exact ⟨plain, columns, keyed, trivial⟩
  | project e specs rs =>
    obtain ⟨input, within, -⟩ := h
    exact ⟨input, within, fun _ _ => trivial⟩
  | aggregate e g specs rs =>
    obtain ⟨input, grouping, within, -⟩ := h
    exact ⟨input, grouping, within, fun _ _ => trivial⟩
  | join l r rs =>
    obtain ⟨left, right, -⟩ := h
    exact ⟨left, right, fun _ _ => trivial⟩
  | union operands => trivial
  | negation e => trivial

theorem Expr.Suits.restrictions {e : Expr} (h : e.Suits server db) {rel : Relation V}
    (hr : e.unrestricted.relation server db = .ok rel) :
    RestrictionsSuit server db rel.header.names e.restrictions := by
  cases e with
  | table t k rs =>
    obtain ⟨-, -, -, suit⟩ := h
    cases restrictBy_nil.symm.trans hr
    rw [show (Relation.ofTable db t k).header.names = k.names from Header.names_settle k]
    exact suit
  | project e specs rs => exact h.2.2 rel hr
  | aggregate e g specs rs => exact h.2.2.2 rel hr
  | join l r rs => exact h.2.2 rel hr
  | union operands => trivial
  | negation e => trivial

end Suits

section Preserved

variable (server : Server V) (db : Instance V)

/-- What an outcome compiles has the meaning that it should have. -/
def Outcome.Preserved : Outcome → Prop
  | .opened e c => ∀ rel, e.unrestricted.relation server db = .ok rel →
    e.unrestricted.Suits server db →
      Realizes server db c rel ∧ (e.isPlain = true → RealizesExactly server db c rel)
  | .restricted e c => ∀ rel, e.relation server db = .ok rel → e.Suits server db →
    Realizes server db c rel ∧
      (e.isPlain = true → e.restrictions = [] → RealizesExactly server db c rel)
  | .compiled mode e c => ∀ rel, e.relation server db = .ok rel → e.Suits server db →
    Realizes server db c rel ∧ (mode = .derived → RealizesExactly server db c rel)
  | .condition h negated r w => ∀ t, r.truth server db h.settle = .ok t →
    r.Suits server db h.names → (w.getD (.constant true)).isLoose = false ∧
      (w.getD (.constant true)).Expresses server db h fun x => (t x).negateIf negated
  | .operands h rs cs => ∀ ts, operandTruths server db h.settle rs = .ok ts →
    RestrictionsSuit server db h.names rs →
      List.Forall₂ (Sql.Cond.Expresses server db h) cs ts
  | .conditions h negated rs cs => ∀ ts,
    restrictionTruths server db h.settle negated rs = .ok ts →
      RestrictionsSuit server db h.names rs → (∀ c ∈ cs, c.isLoose = false) ∧
        ∃ us, List.Forall₂ (Sql.Cond.Expresses server db h) cs us ∧
          ∀ r : Row V, Truth.all (us.map (· (r.only h.names))) =
            Truth.all (ts.map (· (r.only h.names)))

variable {server db} {c d : Compiled} {rel : Relation V}

/-- A table whose header describes it has the rows of its relation. -/
theorem realizesExactly_table {t : TableRef} {h : Header}
    (plain : ∀ a ∈ h.attributes, a.aliasName = "" ∧ a.expression = none)
    (columns : ∀ n, n ∈ h.names ↔ n ∈ db.columns t) (keyed : h.primaryKey ≠ []) :
    RealizesExactly server db ⟨h.stripAliases, .table t⟩ (Relation.ofTable db t h) := by
  have settled := Header.settle_eq_self_iff.mpr plain
  have stripped : h.stripAliases = h := Header.stripAliases_of_resolved
    (Header.hasAliases_eq_false_iff.mpr fun a ha => (plain a ha).1)
  rw [stripped]
  refine ⟨settled, settled, keyed, fun scope => ⟨_, Sql.evaluate_table t, rfl, fun n => ?_,
    fun outer => ?_⟩⟩
  · show n ∈ db.columns t ↔ n ∈ h.settle.names
    rw [Header.names_settle, columns]
  · show db.rows t = (db.rows t).map (Row.only h.names)
    conv_lhs => rw [← List.map_id (db.rows t)]
    refine List.map_congr_left fun r hr => (Row.only_of_within fun n hn => ?_).symm
    exact db.within t r hr n fun hc => hn ((columns n).mpr hc)

/-- Enclosing keeps what is realized, and makes it exact. -/
theorem Realizes.of_enclosed {needed : Bool} {kind : AliasKind} {ctx ctx' : Context}
    (hc : Realizes server db c rel) (h : Enclosed needed kind ctx c d ctx') :
    Realizes server db d rel ∧ (needed = true → RealizesExactly server db d rel) := by
  cases h with
  | kept hn => exact ⟨hc, fun ht => by rw [hn] at ht; cases ht⟩
  | wrapped hn => exact ⟨(hc.enclose _).realizes, fun _ => hc.enclose _⟩

/-- A relation that is ready for a clause has no aliases and no clause. -/
theorem unfiltered_of_ready {kind : AliasKind} {ctx ctx' : Context}
    (ready : Enclosed (c.header.hasAliases || c.source.isFiltered) kind ctx c d ctx') :
    d.header.hasAliases = false ∧ d.source.isFiltered = false := by
  cases ready with
  | kept h => exact Bool.or_eq_false_iff.mp h
  | wrapped _ => exact ⟨Header.hasAliases_stripAliases _, rfl⟩

/-- A condition that is left out stands for a restriction that always holds. -/
theorem truth_of_omitted {h : Header} {t : Row V → Truth}
    (ht : (Sql.Cond.constant true).Expresses server db h t) (r : Row V) :
    t (r.only h.names) = some true := by
  obtain ⟨u, hu, eqv⟩ := ht h.names (List.Subset.refl _)
  cases hu
  exact (eqv r).symm

/-- One more condition has the truth value of one more restriction. -/
theorem expresses_cons {h : Header} {w : Option Sql.Cond} {cs : List Sql.Cond}
    {t : Row V → Truth} {us ts : List (Row V → Truth)}
    (hw : (w.getD (.constant true)).Expresses server db h t)
    (hcs : List.Forall₂ (Sql.Cond.Expresses server db h) cs us)
    (eqv : ∀ r : Row V, Truth.all (us.map (· (r.only h.names))) =
      Truth.all (ts.map (· (r.only h.names)))) :
    ∃ vs, List.Forall₂ (Sql.Cond.Expresses server db h) (w.toList ++ cs) vs ∧
      ∀ r : Row V, Truth.all (vs.map (· (r.only h.names))) =
        Truth.all ((t :: ts).map (· (r.only h.names))) := by
  cases w with
  | none =>
    refine ⟨us, hcs, fun r => ?_⟩
    rw [List.map_cons, truth_of_omitted hw, Truth.all_cons_true, eqv]
  | some c => exact ⟨t :: us, .cons hw hcs, fun r => Truth.all_cons_congr _ (eqv r)⟩

/-- Every outcome has the meaning that it should have. -/
theorem Derives.preserved {ctx ctx' : Context} {o : Outcome} (h : Derives ctx o ctx') :
    o.Preserved server db := by
  induction h with
  | table t h rs =>
    rintro rel hr ⟨plain, columns, keyed, -⟩
    cases restrictBy_nil.symm.trans hr
    have exactly : RealizesExactly server db _ _ := realizesExactly_table plain columns keyed
    exact ⟨exactly.realizes, fun _ => exactly⟩
  | project rs input header ih =>
    rintro rel hr ⟨suits, within, -⟩
    obtain ⟨base, hb, hp⟩ := relation_project_eq_ok_iff.mp hr
    have realizes := (ih base hb suits).1
    exact ⟨realizes.project input.wellShaped.2 header hp (within base hb), fun h => (nomatch h)⟩
  | aggregate rs _ _ aggregated ihc ihd =>
    rintro rel hr ⟨suitsc, suitsd, within, -⟩
    obtain ⟨left, right, hl, hg, ha⟩ := relation_aggregate_eq_ok_iff.mp hr
    obtain ⟨keyed, texts⟩ := within left right hl hg
    have exactc := (ihc left hl suitsc).2 rfl
    have exactd := (ihd right hg suitsd).2 rfl
    exact ⟨exactc.aggregate exactd aggregated ha keyed texts, fun h => (nomatch h)⟩
  | join rs _ _ joined ihc ihd =>
    rintro rel hr ⟨suitsc, suitsd, -⟩
    obtain ⟨left, right, hl, hg, hj⟩ := relation_join_eq_ok_iff.mp hr
    have exactj := ((ihc left hl suitsc).2 rfl).join ((ihd right hg suitsd).2 rfl) joined hj
    exact ⟨exactj.realizes, fun _ => exactj⟩
  | unrestricted opened none ih =>
    intro rel hr suits
    obtain ⟨base, ts, hb, hts, rfl⟩ := relation_eq_ok_iff.mp hr
    rw [none] at hts
    cases hts
    rw [Relation.restrict_nil]
    obtain ⟨realizes, exactly⟩ := ih base hb suits.unrestricted
    exact ⟨realizes, fun plain _ => exactly plain⟩
  | restricted opened some ready conditions ih ihcs =>
    intro rel hr suits
    obtain ⟨base, ts, hb, hts, rfl⟩ := relation_eq_ok_iff.mp hr
    have realizes := ((ih base hb suits.unrestricted).1.of_enclosed ready).1
    obtain ⟨resolved, unfiltered⟩ := unfiltered_of_ready ready
    have names := suits.restrictions hb
    rw [realizes.header] at hts names
    rw [Header.names_settle] at names
    obtain ⟨tight, us, hcs, eqv⟩ := ihcs ts hts names
    refine ⟨realizes.filter resolved unfiltered tight fun scope hs => ?_, fun _ h => absurd h some⟩
    obtain ⟨vs, hvs, same⟩ := truths_of_expresses hcs hs
    exact ⟨vs, hvs, fun r => by rw [same, eqv]⟩
  | @compiled _ _ _ mode e c d restricted finished ih =>
    intro rel hr suits
    obtain ⟨realizes, exactly⟩ := ih rel hr suits
    obtain ⟨realizes', exactly'⟩ := realizes.of_enclosed finished
    refine ⟨realizes', ?_⟩
    rintro rfl
    cases finished with
    | kept h =>
      obtain ⟨plain, unrestricted⟩ := Bool.or_eq_false_iff.mp h
      exact exactly (by simpa using plain) (by simpa using unrestricted)
    | wrapped h => exact exactly' h
  | sql h negated text =>
    intro t ht suits
    cases ht
    have raw : (Sql.Cond.raw text).Expresses server db h (server.condition text) :=
      fun scope _ => ⟨_, rfl, suits⟩
    exact ⟨isLoose_bracket negated _, expresses_bracket negated raw⟩
  | tuples condition =>
    intro t ht _
    cases ht
    exact expresses_of_tuples server db condition
  | semijoin h negated input ready ih =>
    intro t ht suits
    obtain ⟨rel, hr, ht⟩ := bind_eq_ok.mp ht
    cases pure_eq_ok.mp ht
    have exactly := (ih rel hr suits).2 rfl
    cases ready with
    | kept _ => exact expresses_of_match exactly h negated
    | wrapped _ => exact expresses_of_match (exactly.realizes.enclose _) h negated
  | union negated operands ih =>
    rintro t ht ⟨nonempty, suits⟩
    obtain ⟨ts, hts, ht⟩ := bind_eq_ok.mp ht
    cases pure_eq_ok.mp ht
    have each := ih ts hts suits
    refine ⟨isLoose_bracket negated _, expresses_bracket negated (expresses_disj each ?_)⟩
    cases operands with
    | noOperands h => exact absurd rfl nonempty
    | loneMarker _ => simp
    | operand _ _ => simp
  | complement negated operand ih =>
    intro t ht suits
    obtain ⟨t', ht', ht⟩ := bind_eq_ok.mp ht
    cases pure_eq_ok.mp ht
    have each := ih [t'] (bind_eq_ok.mpr ⟨t', ht', rfl⟩) ⟨suits, trivial⟩
    have first := (List.forall₂_cons.mp each).1
    refine ⟨isLoose_bracket _ _, expresses_congr (expresses_bracket _ first) fun r => ?_⟩
    exact Truth.negateIf_not negated _
  | noOperands h =>
    intro ts hts _
    cases hts
    exact .nil
  | loneMarker rest ih =>
    rintro ts hts ⟨-, suits⟩
    obtain ⟨t, ht, hts⟩ := bind_eq_ok.mp hts
    obtain ⟨ts', hts', hts⟩ := bind_eq_ok.mp hts
    cases ht
    cases pure_eq_ok.mp hts
    exact .cons (expresses_constant true) (ih ts' hts' suits)
  | operand first rest ihr ihrs =>
    rintro ts hts ⟨suit, suits⟩
    obtain ⟨t, ht, hts⟩ := bind_eq_ok.mp hts
    obtain ⟨ts', hts', hts⟩ := bind_eq_ok.mp hts
    cases pure_eq_ok.mp hts
    exact .cons (ihr t ht suit).2 (ihrs ts' hts' suits)
  | noConditions h negated =>
    intro ts hts _
    cases hts
    exact ⟨by simp, [], .nil, fun _ => rfl⟩
  | marker negated rest ih => exact fun ts hts suits => ih ts hts suits.2
  | @clause _ _ _ h negated r rs w cs first rest ihr ihrs =>
    rintro ts hts ⟨suit, suits⟩
    rw [restrictionTruths_cons (ne_marker_of_condition first)] at hts
    obtain ⟨t, ht, hts⟩ := bind_eq_ok.mp hts
    obtain ⟨ts', hts', hts⟩ := bind_eq_ok.mp hts
    cases pure_eq_ok.mp hts
    obtain ⟨loose, expresses⟩ := ihr t ht suit
    obtain ⟨tight, us, hcs, eqv⟩ := ihrs ts' hts' suits
    refine ⟨?_, expresses_cons expresses hcs eqv⟩
    intro c hc
    rcases List.mem_append.mp hc with hc | hc
    · rw [Option.mem_toList.mp hc] at loose
      exact loose
    · exact tight c hc

end Preserved

namespace Sample

theorem suits_trialCounts : trialCounts.Suits server database := by
  have condition : server.ConditionWithin ["id", "score"] "score > 0" := fun _ => rfl
  have table : (retired []).Suits server database :=
    ⟨by decide, fun n => Iff.rfl, by decide, trivial⟩
  refine ⟨⟨by decide, fun n => Iff.rfl, by decide, condition, trivial, table, trivial⟩,
    ⟨by decide, fun n => Iff.rfl, by decide, trivial⟩, ?_, fun _ _ => trivial⟩
  intro input grouping hi _
  refine ⟨?_, fun _ _ _ _ _ g => by simp [server]⟩
  cases hi
  decide

end Sample

end Relational

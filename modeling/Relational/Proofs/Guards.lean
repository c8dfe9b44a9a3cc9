import Relational.Proofs.Aliases
import Relational.Proofs.Conditions
import Relational.Proofs.Failures
import Relational.Proofs.Subterms

/-!
# Guards that never strike

The compiler checks that clauses are added to headers without aliases, that markers stand where they
negate something, and that there are records to encode. As long as an expression has no marker
without effect, these checks never fail, whatever else is wrong with it. Nor does a match in another
relation ever have to be enclosed once more. `raisesOnly_of_causes` says for what a compilation can
fail at all.
-/

namespace Relational

variable {α β : Type}

/-- Every error with which a run can end has a property. -/
def Compiler.RaisesOnly (m : Compiler α) (P : Error → Prop) : Prop :=
  ∀ ctx err ctx', m.run.run ctx = (.error err, ctx') → P err

variable {P Q : Error → Prop}

/-! ### Computations -/

theorem Compiler.RaisesOnly.mono {m : Compiler α} (hm : m.RaisesOnly P)
    (hPQ : ∀ err, P err → Q err) : m.RaisesOnly Q :=
  fun ctx err ctx' h => hPQ err (hm ctx err ctx' h)

theorem raisesOnly_pure (a : α) : (pure a : Compiler α).RaisesOnly P := by
  intro ctx err ctx' h
  cases h

theorem raisesOnly_throw {err : Error} (h : P err) : (throw err : Compiler α).RaisesOnly P := by
  intro ctx err' ctx' e
  cases e
  exact h

theorem raisesOnly_lift {x : Except Error α} (h : FailsOnly P x) :
    (liftM x : Compiler α).RaisesOnly P := by
  intro ctx err ctx' e
  exact h err (congrArg Prod.fst e)

/-- What the first computation returns may be used about the second. -/
theorem raisesOnly_bind {m : Compiler α} {f : α → Compiler β} (hm : m.RaisesOnly P)
    (hf : ∀ ctx a ctx', m.Returns ctx a ctx' → (f a).RaisesOnly P) : (m >>= f).RaisesOnly P := by
  intro ctx err ctx' h
  rw [run_bind] at h
  rcases hr : m.run.run ctx with ⟨err₁ | a, ctx₁⟩
  · rw [hr] at h
    cases h
    exact hm ctx err ctx' hr
  · rw [hr] at h
    exact hf ctx a ctx₁ hr ctx₁ err ctx' h

theorem raisesOnly_ite {p : Prop} [Decidable p] {m n : Compiler α} (hm : p → m.RaisesOnly P)
    (hn : ¬ p → n.RaisesOnly P) : (if p then m else n).RaisesOnly P := by
  split
  · exact hm ‹p›
  · exact hn ‹¬ p›

theorem raisesOnly_encloseIf (c : Compiled) (needed : Bool) (kind : AliasKind) :
    (c.encloseIf needed kind).RaisesOnly P := by
  refine raisesOnly_ite (fun _ => ?_) fun _ => raisesOnly_pure _
  refine raisesOnly_bind ?_ fun _ _ _ _ => raisesOnly_pure _
  intro ctx err ctx' h
  cases h

theorem raisesOnly_liftReport {r : Report α} (h : FailsOnly P (r.run.run []).1) :
    (liftReport r).RaisesOnly P := by
  intro ctx err ctx' e
  exact h err (congrArg Prod.fst e)

/-! ### Stages of a compilation -/

theorem raisesOnly_clauseOf {h : Header} (resolved : h.hasAliases = false)
    {m : Compiler (List Sql.Cond)} (hm : m.RaisesOnly P) : (clauseOf h m).RaisesOnly P := by
  refine raisesOnly_bind ?_ fun _ _ _ _ => raisesOnly_bind hm fun _ _ _ _ => raisesOnly_pure _
  rw [requireResolved, resolved]
  exact raisesOnly_pure _

/-- A clause is only asked for on a header without aliases. -/
theorem raisesOnly_finish (c : Compiled) (mode : Enclosure) (plain grouped restricted : Bool)
    {clause : Header → Compiler (Option Sql.Cond)}
    (hc : ∀ h : Header, h.hasAliases = false → (clause h).RaisesOnly P) :
    (c.finish mode plain grouped restricted clause).RaisesOnly P := by
  have restrict : (c.restrict clause).RaisesOnly P := by
    refine raisesOnly_bind (raisesOnly_encloseIf _ _ _) fun ctx d ctx' hd => ?_
    refine raisesOnly_bind (hc d.header ?_) fun _ _ _ _ => raisesOnly_pure _
    -- What is not enclosed has no aliases, and what is enclosed loses them.
    cases enclosed_of_returns hd with
    | kept needed => exact (Bool.or_eq_false_iff.mp needed).1
    | wrapped _ => exact Header.hasAliases_stripAliases _
  unfold Compiled.finish
  refine raisesOnly_ite (fun _ => ?_) fun _ => ?_
  · exact raisesOnly_bind restrict fun _ _ _ _ => raisesOnly_encloseIf _ _ _
  · exact raisesOnly_bind (raisesOnly_pure _) fun _ _ _ _ => raisesOnly_encloseIf _ _ _

/-- The fields of a tuple set are cut down to the names of the header, and there are tuples left
when they are encoded. So the only failures are those of literals. -/
theorem raisesOnly_tuples (t : TupleSet) (h : Header) (negated : Bool) :
    (t.condition h negated).RaisesOnly (·.isLiteral = true) := by
  refine raisesOnly_ite (fun _ => raisesOnly_pure _) fun _ => ?_
  refine raisesOnly_ite (fun _ => raisesOnly_pure _) fun some => ?_
  refine raisesOnly_bind ?_ fun _ _ _ _ => ?_
  · have records : (t.project h.names).records ≠ [] := by simpa using some
    have fields : ∀ r ∈ (t.project h.names).records, ∀ e ∈ r.entries,
        ∃ field ∈ h.names, e.1 = .name field := by
      intro r hr e he
      rw [t.records_project] at hr
      obtain ⟨record, -, rfl⟩ := List.mem_map.mp hr
      rw [entries_project record (t.nodup_commonFields h)] at he
      obtain ⟨field, hf, hv⟩ := List.mem_filterMap.mp he
      obtain ⟨v, -, rfl⟩ := Option.map_eq_some_iff.mp hv
      exact ⟨field, List.mem_of_mem_filter hf, rfl⟩
    refine raisesOnly_liftReport ?_
    rw [outcome_encodeTuples]
    exact failsOnly_encodeRecords records fields
  · exact raisesOnly_ite (fun _ => raisesOnly_pure _) fun _ => raisesOnly_pure _

theorem raisesOnly_alone {r : Restriction} {m : Compiler (Option Sql.Cond)}
    (hm : r ≠ .marker true → m.RaisesOnly P) : (r.alone m).RaisesOnly P := by
  refine raisesOnly_ite (fun _ => raisesOnly_pure _) fun h => ?_
  refine raisesOnly_bind (hm ?_) fun _ _ _ _ => raisesOnly_pure _
  rintro rfl
  exact h rfl

/-- No restriction is a marker without effect, at any depth. -/
abbrev Expr.Unmarked (e : Expr) : Prop := e.Everywhere (fun _ _ => True) (· ≠ .marker false)

/-- The property covers the refusal of every union and negation among the expressions. -/
def CoversRefusals (P : Error → Prop) (es : List Expr) : Prop :=
  ∀ e ∈ es, ∀ operator, e.restrictor? = some operator → P (.invalidStandalone operator)

namespace CoversRefusals

variable {e : Expr} {es fs : List Expr}

theorem head (h : CoversRefusals P (e :: es)) {operator : Standalone}
    (he : e.restrictor? = some operator) : P (.invalidStandalone operator) :=
  (List.forall_mem_cons.mp h).1 operator he

theorem tail (h : CoversRefusals P (e :: es)) : CoversRefusals P es :=
  (List.forall_mem_cons.mp h).2

theorem append (h : CoversRefusals P (es ++ fs)) : CoversRefusals P es ∧ CoversRefusals P fs :=
  List.forall_mem_append.mp h

end CoversRefusals

/-- The property covers errors about headers and literals. -/
structure CoversOrdinary (P : Error → Prop) : Prop where
  heading : ∀ err : Error, err.isHeading = true → P err
  literal : ∀ err : Error, err.isLiteral = true → P err

mutual

/-- Apart from errors about headers and literals, a compilation fails for a marker without effect,
or for a union or a negation that stands alone. -/
theorem raisesOnly_of_causes (ordinary : CoversOrdinary P) (mode : Enclosure) (e : Expr)
    (marks : P .strayMarker ∨ e.Unmarked) (alone : CoversRefusals P e.standalone) :
    (e.compile mode).RaisesOnly P :=
  match e with
  | .table t h rs =>
    raisesOnly_finish _ _ _ _ _ fun _ hr => raisesOnly_clauseOf hr
      (raisesOnly_conditions ordinary _ _ rs (marks.imp_right (·.2)) alone.tail)
  | .project e specs rs => by
    obtain ⟨input, inside⟩ := alone.tail.append
    refine raisesOnly_bind (raisesOnly_of_causes ordinary .aliased e (marks.imp_right (·.1)) input)
      fun _ c _ _ => ?_
    have projected := (c.header.failsOnly_project specs).mono fun _ spec =>
      ordinary.heading _ (Error.isHeading_of_isSpec spec)
    refine raisesOnly_bind (raisesOnly_lift projected) fun _ _ _ _ => ?_
    exact raisesOnly_finish _ _ _ _ _ fun _ hr => raisesOnly_clauseOf hr
      (raisesOnly_conditions ordinary _ _ rs (marks.imp_right (·.2)) inside)
  | .aggregate e g specs rs => by
    obtain ⟨inputs, inside⟩ := alone.tail.append
    have left := raisesOnly_of_causes ordinary .derived e (marks.imp_right (·.1)) inputs.append.1
    have right :=
      raisesOnly_of_causes ordinary .derived g (marks.imp_right (·.2.1)) inputs.append.2
    refine raisesOnly_bind left fun _ c _ _ => raisesOnly_bind right fun _ d _ _ => ?_
    have aggregated := (failsOnly_aggregate c d specs).mono ordinary.heading
    refine raisesOnly_bind (raisesOnly_lift aggregated) fun _ _ _ _ => ?_
    exact raisesOnly_finish _ _ _ _ _ fun _ hr => raisesOnly_clauseOf hr
      (raisesOnly_conditions ordinary _ _ rs (marks.imp_right (·.2.2)) inside)
  | .join l r rs => by
    obtain ⟨inputs, inside⟩ := alone.tail.append
    have left := raisesOnly_of_causes ordinary .derived l (marks.imp_right (·.1)) inputs.append.1
    have right :=
      raisesOnly_of_causes ordinary .derived r (marks.imp_right (·.2.1)) inputs.append.2
    refine raisesOnly_bind left fun _ c _ _ => raisesOnly_bind right fun _ d _ _ => ?_
    have joined := (failsOnly_joined c d).mono ordinary.heading
    refine raisesOnly_bind (raisesOnly_lift joined) fun _ _ _ _ => ?_
    exact raisesOnly_finish _ _ _ _ _ fun _ hr => raisesOnly_clauseOf hr
      (raisesOnly_conditions ordinary _ _ rs (marks.imp_right (·.2.2)) inside)
  | .union _ => raisesOnly_throw (alone.head rfl)
  | .negation _ => raisesOnly_throw (alone.head rfl)
termination_by structural e

theorem raisesOnly_condition (ordinary : CoversOrdinary P) (h : Header) (negated : Bool)
    (r : Restriction) (marks : P .strayMarker ∨ r.Everywhere (fun _ _ => True) (· ≠ .marker false))
    (alone : CoversRefusals P r.standalone) (hm : r ≠ .marker true) :
    (r.condition h negated).RaisesOnly P :=
  match r with
  | .sql _ => raisesOnly_pure _
  | .tuples t => (raisesOnly_tuples t h negated).mono ordinary.literal
  | .semijoin e => by
    refine raisesOnly_bind (raisesOnly_of_causes ordinary .derived e (marks.imp_right (·.2)) alone)
      fun _ _ _ _ => ?_
    exact raisesOnly_bind (raisesOnly_encloseIf _ _ _) fun _ _ _ _ => raisesOnly_pure _
  | .marker true => absurd rfl hm
  | .marker false => raisesOnly_throw (marks.resolve_right fun unmarked => unmarked rfl)
  | .union rs => by
    have operands := raisesOnly_operands ordinary h rs (marks.imp_right (·.2)) alone
    exact raisesOnly_bind operands fun _ _ _ _ => raisesOnly_pure _
  | .complement r => by
    refine raisesOnly_bind (raisesOnly_alone fun hm => ?_) fun _ _ _ _ => raisesOnly_pure _
    exact raisesOnly_condition ordinary h false r (marks.imp_right (·.2)) alone hm
termination_by structural r

theorem raisesOnly_operands (ordinary : CoversOrdinary P) (h : Header) (rs : List Restriction)
    (marks : P .strayMarker ∨ AreEverywhere (fun _ _ => True) (· ≠ .marker false) rs)
    (alone : CoversRefusals P (standaloneAll rs)) : (operandConditions h rs).RaisesOnly P :=
  match rs with
  | [] => raisesOnly_pure _
  | r :: rs => by
    have first := raisesOnly_alone
      (raisesOnly_condition ordinary h false r (marks.imp_right (·.1)) alone.append.1)
    have rest := raisesOnly_operands ordinary h rs (marks.imp_right (·.2)) alone.append.2
    refine raisesOnly_bind first fun _ _ _ _ => ?_
    exact raisesOnly_bind rest fun _ _ _ _ => raisesOnly_pure _
termination_by structural rs

theorem raisesOnly_conditions (ordinary : CoversOrdinary P) (h : Header) (negated : Bool)
    (rs : List Restriction)
    (marks : P .strayMarker ∨ AreEverywhere (fun _ _ => True) (· ≠ .marker false) rs)
    (alone : CoversRefusals P (standaloneAll rs)) : (conditions h negated rs).RaisesOnly P :=
  match rs with
  | [] => raisesOnly_pure _
  | r :: rs => by
    by_cases hm : r = .marker true
    · subst hm
      exact raisesOnly_conditions ordinary h true rs (marks.imp_right (·.2)) alone
    · rw [conditions_cons hm]
      have first :=
        raisesOnly_condition ordinary h negated r (marks.imp_right (·.1)) alone.append.1 hm
      have rest := raisesOnly_conditions ordinary h false rs (marks.imp_right (·.2)) alone.append.2
      refine raisesOnly_bind first fun _ _ _ _ => ?_
      exact raisesOnly_bind rest fun _ _ _ _ => raisesOnly_pure _
termination_by structural rs

end

theorem raisesOnly_compile (mode : Enclosure) (e : Expr) (he : e.Unmarked) :
    (e.compile mode).RaisesOnly (·.isInternal = false) :=
  raisesOnly_of_causes
    ⟨fun _ => Error.isInternal_of_isHeading, fun _ => Error.isInternal_of_isLiteral⟩ mode e
    (.inr he) fun _ _ _ _ => rfl

/-! ### Matches are never enclosed twice -/

/-- Computations that go on in the same way after all that can be returned are the same. -/
theorem bind_congr_of_returns {m : Compiler α} {f g : α → Compiler β}
    (h : ∀ ctx a ctx', m.Returns ctx a ctx' → f a = g a) : m >>= f = m >>= g := by
  funext ctx
  show (m >>= f).run.run ctx = (m >>= g).run.run ctx
  rw [run_bind, run_bind]
  rcases hr : m.run.run ctx with ⟨err | a, ctx₁⟩
  · rfl
  · dsimp only
    rw [h ctx a ctx₁ hr]

/-- A relation to match in has no aliases, so it is matched as its consumer gets it. -/
theorem condition_semijoin (e : Expr) (h : Header) (negated : Bool) :
    (Restriction.semijoin e).condition h negated =
      (do return (← e.compile .derived).condition h negated) := by
  refine bind_congr_of_returns fun ctx c ctx' hc => ?_
  have resolved : c.header.hasAliases = false := (derives_of_returns hc).wellShaped.2
  rw [resolved, Bool.and_false]
  rfl

/-- An alias that was not drawn to enclose a match. -/
def IsUnmatched (stem name : String) : Prop :=
  ∃ (kind : AliasKind) (n : Nat), kind ≠ .matched ∧ name = freshAlias stem kind.letter n

theorem IsUnmatched.ne {stem name : String} (h : IsUnmatched stem name) (n : Nat) :
    name ≠ freshAlias stem AliasKind.matched.letter n := by
  obtain ⟨kind, m, other, rfl⟩ := h
  intro e
  have chars := congrArg String.toList e
  cases kind with
  | restricted => simp [freshAlias, AliasKind.letter] at chars
  | enclosed => simp [freshAlias, AliasKind.letter] at chars
  | matched => exact other rfl

theorem tracks_unmatched : Tracks fun ctx ctx' names =>
    ctx'.stem = ctx.stem ∧ ∀ a ∈ names, IsUnmatched ctx.stem a where
  nil _ _ := ⟨rfl, List.forall_mem_nil _⟩
  drawn ctx kind other := ⟨rfl, List.forall_mem_singleton.mpr ⟨kind, ctx.next, other, rfl⟩⟩
  dropped h := ⟨h.1, List.forall_mem_nil _⟩
  append ha hb := ⟨hb.1.trans ha.1, List.forall_mem_append.mpr ⟨ha.2, ha.1 ▸ hb.2⟩⟩

/-- **The guards of the compiler never strike.** Whatever is wrong with an expression, its
compilation does not end with an internal error, as long as no marker is without effect. The
condition of a tuple set fails only for want of a literal; the names of a join and of an enclosed
header are not repeated; a match is not enclosed again after it was compiled, so that no alias is
drawn for it. -/
theorem compile_not_internal {e : Expr} (unmarked : e.Unmarked) (mode : Enclosure) :
    (∀ ctx err ctx', (e.compile mode).run.run ctx = (.error err, ctx') →
        err ≠ .unresolvedAliases ∧ err ≠ .strayMarker ∧ err ≠ .noRecords) ∧
      (∀ (t : TupleSet) (h : Header) negated ctx err ctx',
        (t.condition h negated).run.run ctx = (.error err, ctx') →
          err ≠ .noRecords ∧ ∀ name available, err ≠ .unknownAttribute name available) ∧
      (∀ (h k : Header) name, h.join k ≠ .error (.duplicateAttribute name)) ∧
      (∀ h : Header,
        Header.ofAttributes (h.attributes.map Attribute.resolve) = .ok h.stripAliases) ∧
      (∀ (f : Expr) (h : Header) negated, (Restriction.semijoin f).condition h negated =
        (do return (← f.compile .derived).condition h negated)) ∧
      ∀ ctx c ctx', (e.compile mode).Returns ctx c ctx' → ∀ a ∈ c.source.introduced, ∀ n,
        a ≠ freshAlias ctx.stem AliasKind.matched.letter n := by
  refine ⟨?_, ?_, Header.join_ne_duplicate, fun h => Header.ofAttributes_self h.stripAliases,
    condition_semijoin, ?_⟩
  · intro ctx err ctx' run
    have external := raisesOnly_compile mode e unmarked ctx err ctx' run
    refine ⟨?_, ?_, ?_⟩ <;> rintro rfl <;> cases external
  · intro t h negated ctx err ctx' run
    have literal := raisesOnly_tuples t h negated ctx err ctx' run
    refine ⟨?_, ?_⟩
    · rintro rfl
      cases literal
    · rintro name available rfl
      cases literal
  · intro ctx c ctx' hr a ha
    exact ((tracks_unmatched.derives (derives_of_returns hr)).2 a ha).ne

/-- A projection that asks for an attribute that counting has dropped. -/
theorem compile_not_internal_dropped :
    ∃ err ctx, ((Expr.project Sample.trialCounts ["trial"] [.not, .sql "n > 1"]).compile
        .derived).run.run {} = (.error err, ctx) ∧
      err ≠ .unresolvedAliases ∧ err ≠ .strayMarker ∧ err ≠ .noRecords := by
  have unmarked : (Expr.project Sample.trialCounts ["trial"] [.not, .sql "n > 1"]).Unmarked := by
    simp [Expr.Unmarked, Expr.Everywhere, AreEverywhere, Restriction.Everywhere,
      Restriction.not, Sample.trialCounts, Sample.sessions, Sample.trials, Sample.retired]
  exact ⟨_, _, rfl, (compile_not_internal unmarked .derived).1 {} _ _ rfl⟩

end Relational

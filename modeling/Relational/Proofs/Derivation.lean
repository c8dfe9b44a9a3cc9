import Relational.Compile

/-!
# Derivations of successful compilations

A compilation draws aliases, reports notices and may fail. `Compiler.Returns` speaks of the runs
that succeed. `Derives` has one rule for every way in which a stage of such a run comes to its
outcome, with the contexts before and after, and `derives_of_returns` finds a derivation for every
run. What holds of all compiled expressions is then proved by induction over derivations.
-/

namespace Relational

/-- A computation succeeds with the given value and leaves the given context behind. -/
def Compiler.Returns {α : Type} (m : Compiler α) (ctx : Context) (a : α) (ctx' : Context) : Prop :=
  m.run.run ctx = (.ok a, ctx')

section Returns

variable {α β : Type} {ctx ctx' : Context}

@[simp] theorem returns_pure {a b : α} :
    (pure a : Compiler α).Returns ctx b ctx' ↔ a = b ∧ ctx = ctx' := by
  show ((Except.ok a, ctx) : Except Error α × Context) = (.ok b, ctx') ↔ _
  simp

@[simp] theorem not_returns_throw {err : Error} {b : α} :
    ¬ (throw err : Compiler α).Returns ctx b ctx' := by
  show ¬ ((Except.error err, ctx) : Except Error α × Context) = (.ok b, ctx')
  simp

theorem run_bind {S : Type} (m : ExceptT Error (StateM S) α) (f : α → ExceptT Error (StateM S) β)
    (s : S) :
    (m >>= f).run.run s =
      match m.run.run s with
      | (.ok a, s₁) => (f a).run.run s₁
      | (.error err, s₁) => (.error err, s₁) := by
  show (match m.run.run s with
    | (r, s₁) => (ExceptT.bindCont f r).run s₁) = _
  rcases m.run.run s with ⟨r | r, s₁⟩ <;> rfl

/-- One computation after another succeeds if both do. -/
theorem run_bind_eq_ok {S : Type} {m : ExceptT Error (StateM S) α}
    {f : α → ExceptT Error (StateM S) β} {s s' : S} {b : β} :
    (m >>= f).run.run s = (.ok b, s') ↔
      ∃ a s₁, m.run.run s = (.ok a, s₁) ∧ (f a).run.run s₁ = (.ok b, s') := by
  rw [run_bind]
  rcases m.run.run s with ⟨err | a, s₁⟩
  · constructor
    · intro h
      cases h
    · rintro ⟨_, _, h, -⟩
      cases h
  · constructor
    · intro h
      exact ⟨a, s₁, rfl, h⟩
    · rintro ⟨_, _, h, hf⟩
      cases h
      exact hf

theorem returns_bind {m : Compiler α} {f : α → Compiler β} {b : β} :
    (m >>= f).Returns ctx b ctx' ↔ ∃ a ctx₁, m.Returns ctx a ctx₁ ∧ (f a).Returns ctx₁ b ctx' :=
  run_bind_eq_ok

@[simp] theorem returns_lift {x : Except Error α} {b : α} :
    (liftM x : Compiler α).Returns ctx b ctx' ↔ x = .ok b ∧ ctx = ctx' := by
  show ((x, ctx) : Except Error α × Context) = (.ok b, ctx') ↔ _
  simp

@[simp] theorem returns_drawAlias {kind s : String} :
    (drawAlias kind).Returns ctx s ctx' ↔
      freshAlias ctx.stem kind ctx.next = s ∧ { ctx with next := ctx.next + 1 } = ctx' := by
  show ((Except.ok _, _) : Except Error String × Context) = (.ok s, ctx') ↔ _
  simp

theorem returns_ite {p : Prop} [Decidable p] {m n : Compiler α} {a : α} :
    (if p then m else n).Returns ctx a ctx' ↔
      p ∧ m.Returns ctx a ctx' ∨ ¬ p ∧ n.Returns ctx a ctx' := by
  split <;> simp_all

end Returns

/-- A report succeeds, with the notices before and after. -/
def Report.Returns {α : Type} (m : Report α) (before : List Notice) (a : α)
    (after : List Notice) : Prop :=
  m.run.run before = (.ok a, after)

section Report

variable {α β : Type} {before after : List Notice}

theorem report_bind {m : Report α} {f : α → Report β} {b : β} :
    (m >>= f).Returns before b after ↔
      ∃ a mid, m.Returns before a mid ∧ (f a).Returns mid b after :=
  run_bind_eq_ok

theorem report_pure {a b : α} :
    (pure a : Report α).Returns before b after ↔ a = b ∧ before = after := by
  show ((Except.ok a, before) : Except Error α × List Notice) = (.ok b, after) ↔ _
  simp

theorem report_lift {x : Except Error α} {b : α} :
    (liftM x : Report α).Returns before b after ↔ x = .ok b ∧ before = after := by
  show ((x, before) : Except Error α × List Notice) = (.ok b, after) ↔ _
  simp

theorem not_report_throw {err : Error} {b : α} :
    ¬ (throw err : Report α).Returns before b after := by
  show ¬ ((Except.error err, before) : Except Error α × List Notice) = (.ok b, after)
  simp

end Report

/-- A fragment is enclosed under the next alias if that is needed, and kept otherwise. -/
inductive Enclosed (needed : Bool) (kind : AliasKind) :
    Context → Compiled → Compiled → Context → Prop
  | kept {ctx : Context} {c : Compiled} (h : needed = false) : Enclosed needed kind ctx c c ctx
  | wrapped {ctx : Context} {c : Compiled} (h : needed = true) :
    Enclosed needed kind ctx c (c.enclose (freshAlias ctx.stem kind.letter ctx.next))
      { ctx with next := ctx.next + 1 }

theorem enclosed_of_returns {c d : Compiled} {needed : Bool} {kind : AliasKind}
    {ctx ctx' : Context} (h : (c.encloseIf needed kind).Returns ctx d ctx') :
    Enclosed needed kind ctx c d ctx' := by
  unfold Compiled.encloseIf at h
  cases needed with
  | false =>
    obtain ⟨rfl, rfl⟩ := returns_pure.mp h
    exact .kept rfl
  | true =>
    obtain ⟨s, ctx₁, hs, h⟩ := returns_bind.mp h
    obtain ⟨rfl, rfl⟩ := returns_drawAlias.mp hs
    obtain ⟨rfl, rfl⟩ := returns_pure.mp h
    exact .wrapped rfl

namespace Expr

/-- Tables and joins are consumed by a join as they are, unless they are restricted. -/
def isPlain : Expr → Bool
  | .table .. | .join .. => true
  | _ => false

/-- Whether an expression is an aggregation. -/
def isGrouped : Expr → Bool
  | .aggregate .. => true
  | _ => false

end Expr

/-- Whether a consumer needs the restricted fragment of an expression enclosed. -/
def Enclosure.demands (mode : Enclosure) (e : Expr) (c : Compiled) : Bool :=
  match mode with
  | .never => false
  | .aliased => c.header.hasAliases
  | .derived => !e.isPlain || !e.restrictions.isEmpty
  | .aggregate => e.isGrouped

/-- What a stage of a compilation comes to: the relation of an operator before its restrictions,
with them, and as its consumer gets it; and the conditions of restrictions on a header. -/
inductive Outcome where
  | opened (e : Expr) (c : Compiled)
  | restricted (e : Expr) (c : Compiled)
  | compiled (mode : Enclosure) (e : Expr) (c : Compiled)
  | condition (h : Header) (negated : Bool) (r : Restriction) (w : Option Sql.Cond)
  | operands (h : Header) (rs : List Restriction) (cs : List Sql.Cond)
  | conditions (h : Header) (negated : Bool) (rs : List Restriction) (cs : List Sql.Cond)

/-- The outcomes of successful compilations, with the contexts before and after. -/
inductive Derives : Context → Outcome → Context → Prop
  | table {ctx : Context} (t : TableRef) (h : Header) (rs : List Restriction) :
    Derives ctx (.opened (.table t h rs) ⟨h.stripAliases, .table t⟩) ctx
  | project {ctx ctx' : Context} {e : Expr} {c : Compiled} {specs : List String} {h : Header}
    (rs : List Restriction) (input : Derives ctx (.compiled .aliased e c) ctx')
    (header : c.header.project specs = .ok h) :
    Derives ctx (.opened (.project e specs rs) ⟨h, c.source⟩) ctx'
  | aggregate {ctx ctx₁ ctx' : Context} {e g : Expr} {c d a : Compiled} {specs : List String}
    (rs : List Restriction) (input : Derives ctx (.compiled .derived e c) ctx₁)
    (grouping : Derives ctx₁ (.compiled .derived g d) ctx')
    (aggregated : c.aggregate d specs = .ok a) :
    Derives ctx (.opened (.aggregate e g specs rs) a) ctx'
  | join {ctx ctx₁ ctx' : Context} {l r : Expr} {c d j : Compiled} (rs : List Restriction)
    (left : Derives ctx (.compiled .derived l c) ctx₁)
    (right : Derives ctx₁ (.compiled .derived r d) ctx') (joined : c.join d = .ok j) :
    Derives ctx (.opened (.join l r rs) j) ctx'
  | unrestricted {ctx ctx' : Context} {e : Expr} {c : Compiled}
    (opened : Derives ctx (.opened e c) ctx') (none : e.restrictions = []) :
    Derives ctx (.restricted e c) ctx'
  | restricted {ctx ctx₁ ctx₂ ctx' : Context} {e : Expr} {c d : Compiled} {cs : List Sql.Cond}
    (opened : Derives ctx (.opened e c) ctx₁) (some : e.restrictions ≠ [])
    (ready : Enclosed (c.header.hasAliases || c.source.isFiltered) .restricted ctx₁ c d ctx₂)
    (conditions : Derives ctx₂ (.conditions d.header false e.restrictions cs) ctx') :
    Derives ctx (.restricted e (d.filter (conjunction cs))) ctx'
  | compiled {ctx ctx₁ ctx' : Context} {mode : Enclosure} {e : Expr} {c d : Compiled}
    (restricted : Derives ctx (.restricted e c) ctx₁)
    (finished : Enclosed (mode.demands e c) .enclosed ctx₁ c d ctx') :
    Derives ctx (.compiled mode e d) ctx'
  | sql {ctx : Context} (h : Header) (negated : Bool) (text : String) :
    Derives ctx (.condition h negated (.sql text) (some (bracket negated (.raw text)))) ctx
  | tuples {ctx ctx' : Context} {h : Header} {negated : Bool} {t : TupleSet}
    {w : Option Sql.Cond} (condition : (t.condition h negated).Returns ctx w ctx') :
    Derives ctx (.condition h negated (.tuples t) w) ctx'
  | semijoin {ctx ctx₁ ctx' : Context} (h : Header) (negated : Bool) {e : Expr} {c d : Compiled}
    (input : Derives ctx (.compiled .derived e c) ctx₁)
    (ready : Enclosed (e.isBareProjection && c.header.hasAliases) .matched ctx₁ c d ctx') :
    Derives ctx (.condition h negated (.semijoin e) (d.condition h negated)) ctx'
  | union {ctx ctx' : Context} {h : Header} (negated : Bool) {rs : List Restriction}
    {cs : List Sql.Cond} (operands : Derives ctx (.operands h rs cs) ctx') :
    Derives ctx (.condition h negated (.union rs) (some (bracket negated (.disj cs)))) ctx'
  | complement {ctx ctx' : Context} {h : Header} (negated : Bool) {r : Restriction}
    {c : Sql.Cond} (operand : Derives ctx (.operands h [r] [c]) ctx') :
    Derives ctx (.condition h negated (.complement r) (some (bracket (!negated) c))) ctx'
  | noOperands {ctx : Context} (h : Header) : Derives ctx (.operands h [] []) ctx
  | loneMarker {ctx ctx' : Context} {h : Header} {rs : List Restriction} {cs : List Sql.Cond}
    (rest : Derives ctx (.operands h rs cs) ctx') :
    Derives ctx (.operands h (.marker true :: rs) (.constant true :: cs)) ctx'
  | operand {ctx ctx₁ ctx' : Context} {h : Header} {r : Restriction} {rs : List Restriction}
    {w : Option Sql.Cond} {cs : List Sql.Cond}
    (first : Derives ctx (.condition h false r w) ctx₁)
    (rest : Derives ctx₁ (.operands h rs cs) ctx') :
    Derives ctx (.operands h (r :: rs) (w.getD (.constant true) :: cs)) ctx'
  | noConditions {ctx : Context} (h : Header) (negated : Bool) :
    Derives ctx (.conditions h negated [] []) ctx
  | marker {ctx ctx' : Context} {h : Header} (negated : Bool) {rs : List Restriction}
    {cs : List Sql.Cond} (rest : Derives ctx (.conditions h true rs cs) ctx') :
    Derives ctx (.conditions h negated (.marker true :: rs) cs) ctx'
  | clause {ctx ctx₁ ctx' : Context} {h : Header} {negated : Bool} {r : Restriction}
    {rs : List Restriction} {w : Option Sql.Cond} {cs : List Sql.Cond}
    (first : Derives ctx (.condition h negated r w) ctx₁)
    (rest : Derives ctx₁ (.conditions h false rs cs) ctx') :
    Derives ctx (.conditions h negated (r :: rs) (w.toList ++ cs)) ctx'

section Returns

variable {ctx ctx₁ ctx' : Context} {h : Header}

theorem conditions_of_returns_clauseOf {m : Compiler (List Sql.Cond)} {w : Option Sql.Cond}
    (hr : (clauseOf h m).Returns ctx w ctx') :
    ∃ cs, m.Returns ctx cs ctx' ∧ w = conjunction cs := by
  obtain ⟨_, ctx₁, hq, hr⟩ := returns_bind.mp hr
  obtain ⟨cs, ctx₂, hm, hr⟩ := returns_bind.mp hr
  obtain ⟨rfl, rfl⟩ := returns_pure.mp hr
  obtain ⟨-, hq⟩ | ⟨-, hq⟩ := returns_ite.mp hq
  · exact absurd hq not_returns_throw
  · obtain ⟨-, rfl⟩ := returns_pure.mp hq
    exact ⟨cs, hm, rfl⟩

/-- Restricting and enclosing the relation of an operator completes its derivation. -/
theorem derives_of_returns_finish {mode : Enclosure} {e : Expr} {c d : Compiled}
    (opened : Derives ctx (.opened e c) ctx₁)
    (clauses : ∀ {h : Header} {ctx ctx' : Context} {cs : List Sql.Cond},
      (conditions h false e.restrictions).Returns ctx cs ctx' →
        Derives ctx (.conditions h false e.restrictions cs) ctx')
    (hr : (c.finish mode e.isPlain e.isGrouped (!e.restrictions.isEmpty)
      (fun h => clauseOf h (conditions h false e.restrictions))).Returns ctx₁ d ctx') :
    Derives ctx (.compiled mode e d) ctx' := by
  unfold Compiled.finish at hr
  obtain ⟨hs, hr⟩ | ⟨hs, hr⟩ := returns_ite.mp hr
  · obtain ⟨c₁, ctx₂, hc, hr⟩ := returns_bind.mp hr
    obtain ⟨c₂, ctx₃, ready, hc⟩ := returns_bind.mp hc
    obtain ⟨w, ctx₄, hw, hc⟩ := returns_bind.mp hc
    obtain ⟨rfl, rfl⟩ := returns_pure.mp hc
    obtain ⟨cs, hcs, rfl⟩ := conditions_of_returns_clauseOf hw
    have some : e.restrictions ≠ [] := by simpa using hs
    refine .compiled (.restricted opened some (enclosed_of_returns ready) (clauses hcs)) ?_
    cases mode <;> exact enclosed_of_returns hr
  · obtain ⟨c₁, ctx₂, hc, hr⟩ := returns_bind.mp hr
    obtain ⟨rfl, rfl⟩ := returns_pure.mp hc
    refine .compiled (.unrestricted opened (by simpa using hs)) ?_
    cases mode <;> exact enclosed_of_returns hr

/-- The condition of a restriction that stands alone is that of a list with one operand. -/
theorem derives_of_returns_alone {r : Restriction} {c : Sql.Cond}
    (condition : ∀ {ctx ctx' : Context} {w : Option Sql.Cond},
      (r.condition h false).Returns ctx w ctx' → Derives ctx (.condition h false r w) ctx')
    (hr : (r.alone (r.condition h false)).Returns ctx c ctx₁) {rs : List Restriction}
    {cs : List Sql.Cond} (rest : Derives ctx₁ (.operands h rs cs) ctx') :
    Derives ctx (.operands h (r :: rs) (c :: cs)) ctx' := by
  obtain ⟨hm, hr⟩ | ⟨-, hr⟩ := returns_ite.mp hr
  · obtain ⟨rfl, rfl⟩ := returns_pure.mp hr
    match r, hm with
    | .marker true, _ => exact .loneMarker rest
  · obtain ⟨w, ctx₂, hw, hr⟩ := returns_bind.mp hr
    obtain ⟨rfl, rfl⟩ := returns_pure.mp hr
    exact .operand (condition hw) rest

/-- A restriction that is no marker adds its condition. -/
theorem conditions_cons {negated : Bool} {r : Restriction} {rs : List Restriction}
    (hm : r ≠ .marker true) :
    conditions h negated (r :: rs) = (do
      let w ← r.condition h negated
      return w.toList ++ (← conditions h false rs)) := by
  match r, hm with
  | .marker false, _ => rfl
  | .sql _, _ => rfl
  | .tuples _, _ => rfl
  | .semijoin _, _ => rfl
  | .union _, _ => rfl
  | .complement _, _ => rfl

/-- A marker passes to the next restriction; any other restriction adds its condition. -/
theorem conditions_cons_of_returns {negated : Bool} {r : Restriction} {rs : List Restriction}
    {cs : List Sql.Cond} (hr : (conditions h negated (r :: rs)).Returns ctx cs ctx') :
    (r = .marker true ∧ (conditions h true rs).Returns ctx cs ctx') ∨
      (r ≠ .marker true ∧ ∃ w cs' ctx₁, (r.condition h negated).Returns ctx w ctx₁ ∧
        (conditions h false rs).Returns ctx₁ cs' ctx' ∧ w.toList ++ cs' = cs) := by
  by_cases hm : r = .marker true
  · subst hm
    exact .inl ⟨rfl, hr⟩
  · rw [conditions_cons hm] at hr
    obtain ⟨w, ctx₁, hw, hr⟩ := returns_bind.mp hr
    obtain ⟨cs', ctx₂, hcs, hr⟩ := returns_bind.mp hr
    obtain ⟨rfl, rfl⟩ := returns_pure.mp hr
    exact .inr ⟨hm, w, cs', ctx₁, hw, hcs, rfl⟩

end Returns

mutual

theorem derives_of_returns {mode : Enclosure} {e : Expr} {c : Compiled} {ctx ctx' : Context}
    (hr : (e.compile mode).Returns ctx c ctx') : Derives ctx (.compiled mode e c) ctx' :=
  match e with
  | .table t h rs => derives_of_returns_finish (.table t h rs) derives_conditions_of_returns hr
  | .project e specs rs => by
    obtain ⟨d, ctx₁, hd, hr⟩ := returns_bind.mp hr
    obtain ⟨h, ctx₂, hh, hr⟩ := returns_bind.mp hr
    obtain ⟨header, rfl⟩ := returns_lift.mp hh
    exact derives_of_returns_finish (.project rs (derives_of_returns hd) header)
      derives_conditions_of_returns hr
  | .aggregate e g specs rs => by
    obtain ⟨d, ctx₁, hd, hr⟩ := returns_bind.mp hr
    obtain ⟨f, ctx₂, hf, hr⟩ := returns_bind.mp hr
    obtain ⟨a, ctx₃, ha, hr⟩ := returns_bind.mp hr
    obtain ⟨aggregated, rfl⟩ := returns_lift.mp ha
    exact derives_of_returns_finish
      (.aggregate rs (derives_of_returns hd) (derives_of_returns hf) aggregated)
      derives_conditions_of_returns hr
  | .join l r rs => by
    obtain ⟨d, ctx₁, hd, hr⟩ := returns_bind.mp hr
    obtain ⟨f, ctx₂, hf, hr⟩ := returns_bind.mp hr
    obtain ⟨j, ctx₃, hj, hr⟩ := returns_bind.mp hr
    obtain ⟨joined, rfl⟩ := returns_lift.mp hj
    exact derives_of_returns_finish
      (.join rs (derives_of_returns hd) (derives_of_returns hf) joined)
      derives_conditions_of_returns hr
  | .union _ => absurd hr not_returns_throw
  | .negation _ => absurd hr not_returns_throw
termination_by structural e

theorem derives_condition_of_returns {h : Header} {negated : Bool} {r : Restriction}
    {w : Option Sql.Cond} {ctx ctx' : Context} (hr : (r.condition h negated).Returns ctx w ctx') :
    Derives ctx (.condition h negated r w) ctx' :=
  match r with
  | .sql text => by
    obtain ⟨rfl, rfl⟩ := returns_pure.mp hr
    exact .sql h negated text
  | .tuples t => .tuples hr
  | .semijoin e => by
    obtain ⟨c, ctx₁, hc, hr⟩ := returns_bind.mp hr
    obtain ⟨d, ctx₂, hd, hr⟩ := returns_bind.mp hr
    obtain ⟨rfl, rfl⟩ := returns_pure.mp hr
    exact .semijoin h negated (derives_of_returns hc) (enclosed_of_returns hd)
  | .marker _ => absurd hr not_returns_throw
  | .union rs => by
    obtain ⟨cs, ctx₁, hcs, hr⟩ := returns_bind.mp hr
    obtain ⟨rfl, rfl⟩ := returns_pure.mp hr
    exact .union negated (derives_operands_of_returns hcs)
  | .complement r => by
    obtain ⟨c, ctx₁, hc, hr⟩ := returns_bind.mp hr
    obtain ⟨rfl, rfl⟩ := returns_pure.mp hr
    exact .complement negated
      (derives_of_returns_alone derives_condition_of_returns hc (.noOperands h))
termination_by structural r

theorem derives_operands_of_returns {h : Header} {rs : List Restriction} {cs : List Sql.Cond}
    {ctx ctx' : Context} (hr : (operandConditions h rs).Returns ctx cs ctx') :
    Derives ctx (.operands h rs cs) ctx' :=
  match rs with
  | [] => by
    obtain ⟨rfl, rfl⟩ := returns_pure.mp hr
    exact .noOperands h
  | r :: rs => by
    obtain ⟨c, ctx₁, hc, hr⟩ := returns_bind.mp hr
    obtain ⟨cs, ctx₂, hcs, hr⟩ := returns_bind.mp hr
    obtain ⟨rfl, rfl⟩ := returns_pure.mp hr
    exact derives_of_returns_alone derives_condition_of_returns hc
      (derives_operands_of_returns hcs)
termination_by structural rs

theorem derives_conditions_of_returns {h : Header} {negated : Bool} {rs : List Restriction}
    {cs : List Sql.Cond} {ctx ctx' : Context}
    (hr : (conditions h negated rs).Returns ctx cs ctx') :
    Derives ctx (.conditions h negated rs cs) ctx' :=
  match rs with
  | [] => by
    obtain ⟨rfl, rfl⟩ := returns_pure.mp hr
    exact .noConditions h negated
  | r :: rs => by
    obtain ⟨rfl, hr⟩ | ⟨-, w, cs', ctx₁, hw, hcs, rfl⟩ := conditions_cons_of_returns hr
    · exact .marker negated (derives_conditions_of_returns hr)
    · exact .clause (derives_condition_of_returns hw) (derives_conditions_of_returns hcs)
termination_by structural rs

end

/-! ### A small schema

Sessions with a score, the trials of sessions, and retired sessions. -/

namespace Sample

/-- A numeric column. -/
def column (name : String) (isKey : Bool) : Attribute := { name, type := .numeric, isKey }

def sessions (rs : List Restriction) : Expr :=
  .table ⟨"session", "lab", by decide⟩ ⟨[column "id" true, column "score" false], by decide⟩ rs

def trials (rs : List Restriction) : Expr :=
  .table ⟨"trial", "lab", by decide⟩ ⟨[column "id" true, column "trial" true], by decide⟩ rs

def retired (rs : List Restriction) : Expr :=
  .table ⟨"retired", "lab", by decide⟩ ⟨[column "id" true], by decide⟩ rs

/-- The number of trials of each session that has a positive score and is not retired. -/
def trialCounts : Expr :=
  .aggregate (sessions [.sql "score > 0", .not, .semijoin (retired [])]) (trials [])
    ["count(*)->n"] []

end Sample

end Relational

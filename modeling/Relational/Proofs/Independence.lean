import Relational.Proofs.Contexts
import Relational.Proofs.Shape

/-!
# Compilation up to aliases

A context holds the stem and the number of the next alias, and the notices so far. They decide how
aliases are called and nothing else. `Compiler.Agrees` compares what two computations come to in any
two contexts: the same error, or values that look the same. All stages of a compilation agree with
themselves once the aliases are left out.
-/

namespace Relational

namespace Sql

mutual

/-- A fragment with its aliases left out. -/
def Fragment.unnamed : Fragment → Fragment
  | .table t => .table t
  | .derived columns source _ => .derived columns source.unnamed ""
  | .join l r => .join l.unnamed r.unnamed
  | .filter source c => .filter source.unnamed c.unnamed
  | .group source names => .group source.unnamed names
termination_by structural f => f

/-- A condition with its aliases left out. -/
def Cond.unnamed : Cond → Cond
  | .raw text => .raw text
  | .constant b => .constant b
  | .isNull field => .isNull field
  | .equal field l => .equal field l
  | .conj cs => .conj (unnamedAll cs)
  | .disj cs => .disj (unnamedAll cs)
  | .paren c => .paren c.unnamed
  | .not c => .not c.unnamed
  | .within names negated source => .within names negated source.unnamed
termination_by structural c => c

/-- Several conditions with their aliases left out. -/
def unnamedAll : List Cond → List Cond
  | [] => []
  | c :: cs => c.unnamed :: unnamedAll cs
termination_by structural cs => cs

end

theorem unnamedAll_eq_map (cs : List Cond) : unnamedAll cs = cs.map Cond.unnamed := by
  induction cs with
  | nil => rfl
  | cons c cs ih => rw [unnamedAll, ih, List.map_cons]

@[simp] theorem isFiltered_unnamed (f : Fragment) : f.unnamed.isFiltered = f.isFiltered := by
  cases f <;> rfl

@[simp] theorem unnamed_bracket (negated : Bool) (c : Cond) :
    (bracket negated c).unnamed = bracket negated c.unnamed := by
  cases negated <;> rfl

theorem map_unnamed_conjunction (cs : List Cond) :
    (conjunction cs).map Cond.unnamed = conjunction (cs.map Cond.unnamed) := by
  cases cs with
  | nil => rfl
  | cons c cs => exact congrArg (some ∘ Cond.conj) (unnamedAll_eq_map (c :: cs))

theorem map_unnamed_emptyRestrictor (negated common : Bool) :
    (emptyRestrictor negated common).map Cond.unnamed = emptyRestrictor negated common := by
  cases negated <;> cases common <;> rfl

end Sql

open Sql

namespace Compiled

/-- A compiled relation with the aliases of its fragment left out. -/
def unnamed (c : Compiled) : Compiled := ⟨c.header, c.source.unnamed⟩

@[simp] theorem header_unnamed (c : Compiled) : c.unnamed.header = c.header := rfl

variable {c d : Compiled}

theorem header_of_unnamed (h : c.unnamed = d.unnamed) : c.header = d.header :=
  (Compiled.mk.inj h).1

theorem source_of_unnamed (h : c.unnamed = d.unnamed) : c.source.unnamed = d.source.unnamed :=
  (Compiled.mk.inj h).2

theorem isFiltered_of_unnamed (h : c.unnamed = d.unnamed) :
    c.source.isFiltered = d.source.isFiltered := by
  rw [← isFiltered_unnamed, source_of_unnamed h, isFiltered_unnamed]

theorem unnamed_enclose (c : Compiled) (aliasName : String) :
    (c.enclose aliasName).unnamed = c.unnamed.enclose "" := rfl

theorem unnamed_filter (c : Compiled) (w : Option Cond) :
    (c.filter w).unnamed = c.unnamed.filter (w.map Cond.unnamed) := by
  cases w <;> rfl

theorem map_unnamed_condition (c : Compiled) (h : Header) (negated : Bool) :
    (c.condition h negated).map Cond.unnamed = c.unnamed.condition h negated := by
  unfold condition
  rw [header_unnamed]
  cases h.nonBlobs.filter (· ∈ c.header.nonBlobs) with
  | nil => exact map_unnamed_emptyRestrictor negated false
  | cons n ns => rfl

theorem map_unnamed_join (c d : Compiled) :
    (c.join d).map unnamed = c.unnamed.join d.unnamed := by
  unfold join
  rw [header_unnamed, header_unnamed]
  cases c.header.join d.header <;> rfl

theorem map_unnamed_aggregate (c g : Compiled) (specs : List String) :
    (c.aggregate g specs).map unnamed = c.unnamed.aggregate g.unnamed specs := by
  unfold aggregate
  rw [header_unnamed, header_unnamed]
  cases c.header.blobs.filter (· ∈ g.header.blobs) with
  | cons n ns => rfl
  | nil =>
    cases c.header.project specs with
    | error err => rfl
    | ok h =>
      show Except.map unnamed (if h.hasAliases then _ else _) = if h.hasAliases then _ else _
      split <;> rfl

end Compiled

/-! ### Computations -/

section Agrees

variable {α β γ δ : Type}

/-- Two computations come to the same in any two contexts, as far as a view of their values shows:
either both fail with the same error, or both return values that look the same. -/
def Compiler.Agrees (v : α → γ) (m n : Compiler α) : Prop :=
  ∀ ctx ctx', (m.run.run ctx).1.map v = (n.run.run ctx').1.map v

variable {v : α → γ}

theorem agrees_pure {a b : α} (h : v a = v b) :
    Compiler.Agrees v (pure a) (pure b) :=
  fun _ _ => congrArg Except.ok h

theorem agrees_throw (err : Error) : Compiler.Agrees v (throw err) (throw err) :=
  fun _ _ => rfl

theorem agrees_lift {x y : Except Error α} (h : x.map v = y.map v) :
    Compiler.Agrees v (liftM x) (liftM y) :=
  fun _ _ => h

/-- What goes on in the same way after values that look the same comes to the same. -/
theorem agrees_bind {m n : Compiler α} {f g : α → Compiler β} {u : β → δ}
    (hm : m.Agrees v n) (hf : ∀ a b, v a = v b → (f a).Agrees u (g b)) :
    (m >>= f).Agrees u (n >>= g) := by
  intro ctx ctx'
  have first := hm ctx ctx'
  rw [run_bind, run_bind]
  revert first
  rcases m.run.run ctx with ⟨err | a, ctx₁⟩ <;> rcases n.run.run ctx' with ⟨err' | b, ctx₂⟩ <;>
    intro first
  · cases first
    rfl
  · cases first
  · cases first
  · exact hf a b (Except.ok.inj first) ctx₁ ctx₂

theorem Compiler.Agrees.mono {m n : Compiler α} {u : α → δ} (h : m.Agrees v n)
    (hu : ∀ a b, v a = v b → u a = u b) : m.Agrees u n := by
  have binds := agrees_bind (f := pure) (g := pure) h fun a b same => agrees_pure (hu a b same)
  rwa [bind_pure, bind_pure] at binds

theorem agrees_ite {p : Prop} [Decidable p] {m n m' n' : Compiler α} (hm : m.Agrees v m')
    (hn : n.Agrees v n') : (if p then m else n).Agrees v (if p then m' else n') := by
  split
  · exact hm
  · exact hn

theorem agrees_liftReport (r : Report α) : (liftReport r).Agrees v (liftReport r) :=
  fun _ _ => rfl

/-- A returned value has its like in every context. -/
theorem Compiler.Agrees.exists_returns {m n : Compiler α} (h : m.Agrees v n) {a : α}
    {ctx ctx₁ : Context} (hr : m.Returns ctx a ctx₁) (ctx' : Context) :
    ∃ b ctx₂, n.Returns ctx' b ctx₂ ∧ v b = v a := by
  have same := h ctx ctx'
  rw [hr] at same
  rcases hn : n.run.run ctx' with ⟨err | b, ctx₂⟩
  · rw [hn] at same
    cases same
  · rw [hn] at same
    exact ⟨b, ctx₂, hn, (Except.ok.inj same).symm⟩

end Agrees

/-! ### Stages of a compilation -/

section Stages

variable {c d : Compiled}

theorem agrees_encloseIf (h : c.unnamed = d.unnamed) (needed : Bool) (kind : AliasKind) :
    (c.encloseIf needed kind).Agrees Compiled.unnamed (d.encloseIf needed kind) := by
  refine agrees_ite ?_ (agrees_pure h)
  -- The alias that is drawn is the only thing that depends on the context.
  refine agrees_bind (v := fun _ => ()) (fun _ _ => rfl) fun s t _ => agrees_pure ?_
  rw [Compiled.unnamed_enclose, Compiled.unnamed_enclose, h]

theorem agrees_clauseOf (h : Header) {m n : Compiler (List Cond)}
    (hm : m.Agrees (List.map Cond.unnamed) n) :
    (clauseOf h m).Agrees (Option.map Cond.unnamed) (clauseOf h n) := by
  refine agrees_bind (v := id) (agrees_ite (agrees_throw _) (agrees_pure rfl)) fun _ _ _ => ?_
  refine agrees_bind hm fun cs ds same => agrees_pure ?_
  rw [map_unnamed_conjunction, map_unnamed_conjunction, same]

theorem agrees_finish (h : c.unnamed = d.unnamed) (mode : Enclosure)
    (plain grouped restricted : Bool) {clause : Header → Compiler (Option Cond)}
    (hc : ∀ h, (clause h).Agrees (Option.map Cond.unnamed) (clause h)) :
    (c.finish mode plain grouped restricted clause).Agrees Compiled.unnamed
      (d.finish mode plain grouped restricted clause) := by
  have restrict : (c.restrict clause).Agrees Compiled.unnamed (d.restrict clause) := by
    unfold Compiled.restrict
    rw [Compiled.header_of_unnamed h, Compiled.isFiltered_of_unnamed h]
    refine agrees_bind (agrees_encloseIf h _ _) fun a b same => ?_
    rw [Compiled.header_of_unnamed same]
    refine agrees_bind (hc _) fun w w' clauses => agrees_pure ?_
    rw [Compiled.unnamed_filter, Compiled.unnamed_filter, same, clauses]
  unfold Compiled.finish
  refine agrees_ite ?_ ?_
  · refine agrees_bind restrict fun a b same => ?_
    dsimp only
    rw [Compiled.header_of_unnamed same]
    exact agrees_encloseIf same _ _
  · refine agrees_bind (agrees_pure h) fun a b same => ?_
    dsimp only
    rw [Compiled.header_of_unnamed same]
    exact agrees_encloseIf same _ _

theorem agrees_alone (r : Restriction) {m n : Compiler (Option Cond)}
    (hm : m.Agrees (Option.map Cond.unnamed) n) :
    (r.alone m).Agrees Cond.unnamed (r.alone n) := by
  refine agrees_ite (agrees_pure rfl) (agrees_bind hm fun w w' same => agrees_pure ?_)
  have default (w : Option Cond) : (w.getD (.constant true)).unnamed =
      (w.map Cond.unnamed).getD (.constant true) := by
    cases w <;> rfl
  rw [default, default, same]

theorem agrees_tuples (t : TupleSet) (h : Header) (negated : Bool) :
    (t.condition h negated).Agrees (Option.map Cond.unnamed) (t.condition h negated) := by
  refine agrees_ite (agrees_pure rfl) (agrees_ite (agrees_pure rfl) ?_)
  refine agrees_bind (v := id) (agrees_liftReport _) fun c d same => ?_
  cases same
  exact agrees_ite (agrees_pure rfl) (agrees_pure rfl)

end Stages

mutual

/-- An expression compiles to the same in all contexts, up to aliases. -/
theorem agrees_compile (mode : Enclosure) (e : Expr) :
    (e.compile mode).Agrees Compiled.unnamed (e.compile mode) :=
  match e with
  | .table t h rs =>
    agrees_finish rfl mode _ _ _ fun h => agrees_clauseOf h (agrees_conditions h false rs)
  | .project e specs rs => by
    refine agrees_bind (agrees_compile .aliased e) fun c d same => ?_
    rw [Compiled.header_of_unnamed same]
    refine agrees_bind (v := id) (agrees_lift rfl) fun h k header => ?_
    refine agrees_finish ?_ mode _ _ _ fun h => agrees_clauseOf h (agrees_conditions h false rs)
    show Compiled.mk h c.source.unnamed = Compiled.mk k d.source.unnamed
    rw [show h = k from header, Compiled.source_of_unnamed same]
  | .aggregate e g specs rs => by
    refine agrees_bind (agrees_compile .derived e) fun c d left => ?_
    refine agrees_bind (agrees_compile .derived g) fun c' d' right => ?_
    have same : (c.aggregate c' specs).map Compiled.unnamed =
        (d.aggregate d' specs).map Compiled.unnamed := by
      rw [Compiled.map_unnamed_aggregate, Compiled.map_unnamed_aggregate, left, right]
    refine agrees_bind (agrees_lift same) fun a b same => ?_
    exact agrees_finish same mode _ _ _ fun h => agrees_clauseOf h (agrees_conditions h false rs)
  | .join l r rs => by
    refine agrees_bind (agrees_compile .derived l) fun c d left => ?_
    refine agrees_bind (agrees_compile .derived r) fun c' d' right => ?_
    have same : (c.join c').map Compiled.unnamed = (d.join d').map Compiled.unnamed := by
      rw [Compiled.map_unnamed_join, Compiled.map_unnamed_join, left, right]
    refine agrees_bind (agrees_lift same) fun a b same => ?_
    exact agrees_finish same mode _ _ _ fun h => agrees_clauseOf h (agrees_conditions h false rs)
  | .union _ => agrees_throw _
  | .negation _ => agrees_throw _
termination_by structural e

theorem agrees_condition (h : Header) (negated : Bool) (r : Restriction) :
    (r.condition h negated).Agrees (Option.map Cond.unnamed) (r.condition h negated) :=
  match r with
  | .sql _ => agrees_pure rfl
  | .tuples t => agrees_tuples t h negated
  | .semijoin e => by
    refine agrees_bind (agrees_compile .derived e) fun c d same => ?_
    rw [Compiled.header_of_unnamed same]
    refine agrees_bind (agrees_encloseIf same _ _) fun a b same => agrees_pure ?_
    rw [Compiled.map_unnamed_condition, Compiled.map_unnamed_condition, same]
  | .marker _ => agrees_throw _
  | .union rs => by
    refine agrees_bind (agrees_operands h rs) fun cs ds same => agrees_pure ?_
    simp [Cond.unnamed, unnamedAll_eq_map, same]
  | .complement r => by
    refine agrees_bind (agrees_alone r (agrees_condition h false r)) fun c d same => agrees_pure ?_
    simp [same]
termination_by structural r

theorem agrees_operands (h : Header) (rs : List Restriction) :
    (operandConditions h rs).Agrees (List.map Cond.unnamed) (operandConditions h rs) :=
  match rs with
  | [] => agrees_pure rfl
  | r :: rs => by
    refine agrees_bind (agrees_alone r (agrees_condition h false r)) fun c d first => ?_
    refine agrees_bind (agrees_operands h rs) fun cs ds rest => agrees_pure ?_
    rw [List.map_cons, List.map_cons, first, rest]
termination_by structural rs

theorem agrees_conditions (h : Header) (negated : Bool) (rs : List Restriction) :
    (conditions h negated rs).Agrees (List.map Cond.unnamed) (conditions h negated rs) :=
  match rs with
  | [] => agrees_pure rfl
  | r :: rs => by
    by_cases hm : r = .marker true
    · subst hm
      exact agrees_conditions h true rs
    · rw [conditions_cons hm]
      refine agrees_bind (agrees_condition h negated r) fun w w' first => ?_
      refine agrees_bind (agrees_conditions h false rs) fun cs ds rest => agrees_pure ?_
      rw [List.map_append, List.map_append, rest, ← Option.toList_map, first, Option.toList_map]
termination_by structural rs

end

theorem agrees_whereClause (h : Header) (rs : List Restriction) :
    (whereClause h rs).Agrees (Option.map Cond.unnamed) (whereClause h rs) :=
  agrees_clauseOf h (agrees_conditions h false rs)

end Relational

import Mathlib.Data.List.Nodup
import Relational.Proofs.Contexts
import Relational.Proofs.Identifiers
import Relational.Proofs.Shape

/-!
# Aliases of subqueries

Every subquery gets an alias that is drawn from a counter. A statement uses some of the aliases that
are drawn while it is compiled; others are drawn for subqueries that are dropped later, or by a
compilation that fails. Since numbers are only used up, all aliases are different, also those of
statements that are compiled one after another.
-/

namespace Relational

/-! ### Numbers and stems -/

/-- Hexadecimal digits determine the number. -/
theorem toDigits_injective {m n : Nat} (h : Nat.toDigits 16 m = Nat.toDigits 16 n) : m = n := by
  have digit : ∀ i < 16, ∀ j < 16, Nat.digitChar i = Nat.digitChar j → i = j := by decide
  induction m using Nat.strongRecOn generalizing n with
  | _ m ih =>
    have hm := Nat.toDigits_eq_if (b := 16) (n := m) (by omega)
    have hn := Nat.toDigits_eq_if (b := 16) (n := n) (by omega)
    rw [hm, hn] at h
    split at h <;> split at h
    · rename_i hm hn
      exact digit m hm n hn (List.singleton_inj.mp h)
    -- A single digit cannot equal the last digit after others.
    · have := congrArg List.length h
      simp [Nat.toDigits_ne_nil] at this
    · have := congrArg List.length h
      simp [Nat.toDigits_ne_nil] at this
    · obtain ⟨high, low⟩ := List.append_inj' h rfl
      have quotient := ih (m / 16) (by omega) high
      have remainder := digit (m % 16) (by omega) (n % 16) (by omega) (List.singleton_inj.mp low)
      omega

theorem AliasKind.length_letter (k : AliasKind) : k.letter.toList.length = 1 := by
  cases k <;> simp [letter]

/-- Aliases with the same stem and different numbers are different. -/
theorem freshAlias_injective {stem : String} {k l : AliasKind} {m n : Nat}
    (h : freshAlias stem k.letter m = freshAlias stem l.letter n) : m = n := by
  unfold freshAlias at h
  rw [String.append_assoc, String.append_assoc, String.append_right_inj] at h
  have chars := congrArg String.toList h
  rw [String.toList_append, String.toList_append] at chars
  -- The letters need not be the same, but they are equally long.
  have letters : k.letter.toList.length = l.letter.toList.length := by
    rw [k.length_letter, l.length_letter]
  have digits := (List.append_inj chars letters).2
  exact toDigits_injective (by simpa [Text.hexadecimal] using digits)

/-! ### Aliases in fragments -/

namespace Sql

mutual

/-- The aliases that a fragment introduces, in the order of its text. -/
def Fragment.introduced : Fragment → List String
  | .table _ => []
  | .derived _ source aliasName => source.introduced ++ [aliasName]
  | .join l r => l.introduced ++ r.introduced
  | .filter source c => source.introduced ++ c.introduced
  | .group source _ => source.introduced
termination_by structural f => f

/-- The aliases that a condition introduces. -/
def Cond.introduced : Cond → List String
  | .raw _ | .constant _ | .isNull _ | .equal .. => []
  | .conj cs | .disj cs => introducedAll cs
  | .paren c | .not c => c.introduced
  | .within _ _ source => source.introduced
termination_by structural c => c

/-- The aliases that several conditions introduce. -/
def introducedAll : List Cond → List String
  | [] => []
  | c :: cs => c.introduced ++ introducedAll cs
termination_by structural cs => cs

end

/-- The aliases that a statement introduces. -/
def Statement.introduced (s : Statement) : List String := s.source.introduced

theorem introducedAll_append (cs ds : List Cond) :
    introducedAll (cs ++ ds) = introducedAll cs ++ introducedAll ds := by
  induction cs with
  | nil => rfl
  | cons c cs ih => rw [List.cons_append, introducedAll, introducedAll, ih, List.append_assoc]

@[simp] theorem introduced_bracket (negated : Bool) (c : Cond) :
    (bracket negated c).introduced = c.introduced := by
  cases negated <;> rfl

theorem introducedAll_eq_nil {cs : List Cond} (h : ∀ c ∈ cs, c.introduced = []) :
    introducedAll cs = [] := by
  induction cs with
  | nil => rfl
  | cons c cs ih =>
    obtain ⟨first, rest⟩ := List.forall_mem_cons.mp h
    rw [introducedAll, first, ih rest, List.append_nil]

theorem IsSimple.introduced_eq_nil {c : Cond} (h : IsSimple c) : c.introduced = [] := by
  induction h with
  | constant _ | isNull _ | equal _ _ => rfl
  | conj _ ih | disj _ ih => exact introducedAll_eq_nil ih
  | paren _ ih | not _ ih => exact ih

end Sql

open Sql

/-- The aliases in what a stage of a compilation comes to. -/
def Outcome.introduced : Outcome → List String
  | .opened _ c | .restricted _ c | .compiled _ _ c => c.source.introduced
  | .condition _ _ _ w => introducedAll w.toList
  | .operands _ _ cs | .conditions _ _ _ cs => introducedAll cs

theorem introduced_filter (c : Compiled) (cs : List Cond) :
    (c.filter (conjunction cs)).source.introduced = c.source.introduced ++ introducedAll cs := by
  cases cs with
  | nil => exact (List.append_nil _).symm
  | cons d ds => rfl

/-- A match introduces the aliases of the relation, unless nothing is compared. -/
theorem introduced_condition (c : Compiled) (h : Header) (negated : Bool) :
    introducedAll (c.condition h negated).toList = [] ∨
      introducedAll (c.condition h negated).toList = c.source.introduced := by
  unfold Compiled.condition
  split
  · left
    cases negated <;> rfl
  · right
    exact List.append_nil _

theorem introduced_tuples {t : TupleSet} {h : Header} {negated : Bool} {w : Option Cond}
    {ctx ctx' : Context} (hr : (t.condition h negated).Returns ctx w ctx') :
    introducedAll w.toList = [] :=
  introducedAll_eq_nil fun c hc =>
    (isSimple_of_tuples hr c (Option.mem_toList.mp hc)).introduced_eq_nil

theorem introducedAll_getD (w : Option Cond) (cs : List Cond) :
    introducedAll (w.getD (.constant true) :: cs) =
      introducedAll w.toList ++ introducedAll cs := by
  rw [← introducedAll_append]
  cases w <;> rfl

/-! ### Aliases along a derivation -/

/-- A property of two contexts and the aliases drawn between them, which drawing keeps. Matches are
never enclosed, so no alias is drawn for them. -/
structure Tracks (P : Context → Context → List String → Prop) : Prop where
  nil (ctx : Context) (notices : List Notice) : P ctx { ctx with notices := notices } []
  drawn (ctx : Context) {kind : AliasKind} (other : kind ≠ .matched) :
    P ctx { ctx with next := ctx.next + 1 } [freshAlias ctx.stem kind.letter ctx.next]
  /-- Aliases may be drawn without being used. -/
  dropped {ctx ctx' : Context} {as : List String} (h : P ctx ctx' as) : P ctx ctx' []
  append {ctx ctx₁ ctx' : Context} {as bs : List String} (ha : P ctx ctx₁ as)
    (hb : P ctx₁ ctx' bs) : P ctx ctx' (as ++ bs)

namespace Tracks

variable {P : Context → Context → List String → Prop} {ctx ctx₁ ctx' : Context}

theorem enclosed (tracks : Tracks P) {needed : Bool} {kind : AliasKind} {c d : Compiled}
    (h : P ctx ctx₁ c.source.introduced) (he : Enclosed needed kind ctx₁ c d ctx')
    (other : kind ≠ .matched) : P ctx ctx' d.source.introduced := by
  cases he with
  | kept _ => exact h
  | wrapped _ => exact tracks.append h (tracks.drawn ctx₁ other)

/-- What drawing keeps holds of the aliases in every outcome. -/
theorem derives (tracks : Tracks P) {o : Outcome} (h : Derives ctx o ctx') :
    P ctx ctx' o.introduced := by
  induction h with
  | table t h rs => exact tracks.nil _ _
  | project rs _ _ ih => exact ih
  | aggregate rs _ _ aggregated ihc ihd =>
    obtain ⟨-, -, source⟩ := aggregate_cases aggregated
    rw [Outcome.introduced, source]
    exact tracks.append ihc ihd
  | join rs _ _ joined ihc ihd =>
    obtain ⟨-, source⟩ := join_cases joined
    rw [Outcome.introduced, source]
    exact tracks.append ihc ihd
  | unrestricted _ _ ih => exact ih
  | restricted _ _ ready _ ih ihcs =>
    rw [Outcome.introduced, introduced_filter]
    exact tracks.append (tracks.enclosed ih ready (by decide)) ihcs
  | compiled _ finished ih => exact tracks.enclosed ih finished (by decide)
  | sql h negated text => cases negated <;> exact tracks.nil _ _
  | tuples condition =>
    obtain ⟨⟨notices, rfl⟩, -⟩ := TupleSet.condition_cases condition
    rw [Outcome.introduced, introduced_tuples condition]
    exact tracks.nil _ _
  | @semijoin _ _ _ h negated _ c _ input ready ih =>
    -- What a match is compiled for leaves no aliases, so it stays as it is.
    have resolved : c.header.hasAliases = false := input.wellShaped.2
    rw [resolved, Bool.and_false] at ready
    cases ready with
    | wrapped needed => cases needed
    | kept _ =>
      -- The aliases of a relation that shares no attribute are drawn for nothing.
      rw [Outcome.introduced]
      rcases introduced_condition c h negated with none | all
      · rw [none]
        exact tracks.dropped ih
      · rw [all]
        exact ih
  | union negated _ ih => simpa [Outcome.introduced, introducedAll, Cond.introduced] using ih
  | complement negated _ ih => simpa [Outcome.introduced, introducedAll] using ih
  | noOperands h => exact tracks.nil _ _
  | loneMarker _ ih => exact ih
  | operand _ _ ihw ihcs =>
    rw [Outcome.introduced, introducedAll_getD]
    exact tracks.append ihw ihcs
  | noConditions h negated => exact tracks.nil _ _
  | marker negated _ ih => exact ih
  | clause _ _ ihw ihcs =>
    rw [Outcome.introduced, introducedAll_append]
    exact tracks.append ihw ihcs

end Tracks

/-! ### Aliases are drawn from different numbers -/

/-- Different aliases, with numbers from the first bound on and below the second. -/
structure Drawn (stem : String) (m n : Nat) (names : List String) : Prop where
  nodup : names.Nodup
  between : ∀ a ∈ names, ∃ (kind : AliasKind) (i : Nat),
    m ≤ i ∧ i < n ∧ a = freshAlias stem kind.letter i

namespace Drawn

variable {stem : String} {m k n : Nat} {as bs : List String}

theorem nil : Drawn stem m n [] := ⟨.nil, by simp⟩

theorem single (kind : AliasKind) (h : m < n) : Drawn stem m n [freshAlias stem kind.letter m] :=
  ⟨by simp, by simpa using ⟨kind, m, Nat.le_refl m, h, rfl⟩⟩

theorem mono {m' n' : Nat} (h : Drawn stem m n as) (hm : m' ≤ m) (hn : n ≤ n') :
    Drawn stem m' n' as := by
  refine ⟨h.nodup, fun a ha => ?_⟩
  obtain ⟨kind, i, hi, hi', rfl⟩ := h.between a ha
  exact ⟨kind, i, by omega, by omega, rfl⟩

theorem append (ha : Drawn stem m k as) (hb : Drawn stem k n bs) (hm : m ≤ k) (hn : k ≤ n) :
    Drawn stem m n (as ++ bs) := by
  constructor
  · -- An alias on both sides would have a number below `k` and one from `k` on.
    refine List.nodup_append'.mpr ⟨ha.nodup, hb.nodup, ?_⟩
    intro a hl hr
    obtain ⟨_, i, -, below, rfl⟩ := ha.between a hl
    obtain ⟨_, j, above, -, e⟩ := hb.between _ hr
    have same := freshAlias_injective e
    omega
  · intro a h
    rcases List.mem_append.mp h with h | h
    · exact (ha.mono (Nat.le_refl m) hn).between a h
    · exact (hb.mono hm (Nat.le_refl n)).between a h

theorem sublist (h : Drawn stem m n as) (hs : bs.Sublist as) : Drawn stem m n bs :=
  ⟨h.nodup.sublist hs, fun b hb => h.between b (hs.subset hb)⟩

end Drawn

/-- The aliases were drawn between two contexts. -/
structure Draws (ctx ctx' : Context) (names : List String) : Prop where
  stem : ctx'.stem = ctx.stem
  next_le : ctx.next ≤ ctx'.next
  drawn : Drawn ctx.stem ctx.next ctx'.next names

namespace Draws

variable {ctx ctx₁ ctx' : Context} {as bs : List String}

theorem nil : Draws ctx ctx [] := ⟨rfl, Nat.le_refl _, .nil⟩

theorem append (ha : Draws ctx ctx₁ as) (hb : Draws ctx₁ ctx' bs) :
    Draws ctx ctx' (as ++ bs) := by
  have second := hb.drawn
  rw [ha.stem] at second
  exact ⟨hb.stem.trans ha.stem, Nat.le_trans ha.next_le hb.next_le,
    ha.drawn.append second ha.next_le hb.next_le⟩

theorem tracks : Tracks Draws where
  nil _ _ := ⟨rfl, Nat.le_refl _, .nil⟩
  drawn _ kind _ := ⟨rfl, Nat.le_succ _, .single kind (Nat.lt_succ_self _)⟩
  dropped h := ⟨h.stem, h.next_le, .nil⟩
  append := append

end Draws

/-- The aliases in an outcome are drawn while it comes about. -/
theorem Derives.draws {ctx ctx' : Context} {o : Outcome} (h : Derives ctx o ctx') :
    Draws ctx ctx' o.introduced :=
  Draws.tracks.derives h

/-! ### Several statements with one context -/

/-- Compile expressions one after another, each with its suffix. A compilation that fails leaves
behind what it has drawn, and the next one goes on from there. -/
def statements (jobs : List (Expr × String)) : StateM Context (List (Except Error Statement)) :=
  jobs.mapM fun job => (job.1.statement job.2).run

/-- The aliases of all statements that were compiled. -/
def introducedBy (results : List (Except Error Statement)) : List String :=
  results.flatMap fun
    | .ok s => s.introduced
    | .error _ => []

/-- One compilation, whether it succeeds or not. -/
theorem draws_statement (e : Expr) (suffix : String) (ctx : Context) :
    Draws ctx ((e.statement suffix).run.run ctx).2
      (introducedBy [((e.statement suffix).run.run ctx).1]) := by
  have steady := steady_statement e suffix
  have stem := steady.stem ctx
  have next := steady.next_le ctx
  rcases hr : (e.statement suffix).run.run ctx with ⟨err | s, ctx'⟩
  · rw [hr] at stem next
    exact ⟨stem, next, .nil⟩
  · -- There is a derivation only of what succeeds; a failure is covered by the counter alone.
    obtain ⟨c, ctx₁, hc, hs⟩ := returns_bind.mp hr
    obtain ⟨rfl, rfl⟩ := returns_pure.mp hs
    have draws : Draws ctx ctx₁ (c.statement suffix).introduced := (derives_of_returns hc).draws
    simpa [introducedBy] using draws

theorem run_statements_cons (job : Expr × String) (jobs : List (Expr × String)) (ctx : Context) :
    (statements (job :: jobs)).run ctx =
      let first := (job.1.statement job.2).run.run ctx
      let rest := (statements jobs).run first.2
      (first.1 :: rest.1, rest.2) := by
  rw [statements, List.mapM_cons]
  rfl

/-- What a whole run draws is what the first compilation draws, and then the others. -/
theorem draws_statements (jobs : List (Expr × String)) (ctx : Context) :
    Draws ctx ((statements jobs).run ctx).2 (introducedBy ((statements jobs).run ctx).1) := by
  induction jobs generalizing ctx with
  | nil => exact .nil
  | cons job jobs ih =>
    have first := draws_statement job.1 job.2 ctx
    have rest := ih ((job.1.statement job.2).run.run ctx).2
    simpa [run_statements_cons, introducedBy] using first.append rest

/-- **Subqueries have different aliases.** Whatever expressions are compiled with one context, and
whether or not some of them fail, no alias is introduced twice, neither in one statement nor in two
of them. -/
theorem nodup_introducedBy_statements (jobs : List (Expr × String)) (ctx : Context) :
    ((introducedBy ((statements jobs).run ctx).1).map quote).Nodup :=
  (draws_statements jobs ctx).drawn.nodup.map quote_injective

-- The second compilation fails after it has drawn an alias.
example : introducedBy ((statements [(Sample.trialCounts, ""),
    (.join (Sample.sessions [.sql "score > 0"]) (.union []) [], ""),
    (Sample.trialCounts, "")]).run {}).1 = ["$a1", "$a3"] := by decide

end Relational

import Mathlib.Data.List.Forall2
import Relational.Proofs.Answer
import Relational.Sql.Render

/-!
# Reading conditions

The text of a condition is cut into pieces: comparisons, truth values, connectives and brackets. A
reader goes over the pieces from left to right, as a server does that sees no tree: `NOT` takes the
next operand, `AND` binds tighter than `OR`, and a bracket is an operand of its own. SQL text that
the user wrote may hold any operators, so it is accepted only where it stands alone in its brackets.

A comparison has whatever truth value an assignment gives it. `read_pieces` says that the reader
arrives at the value of the tree, for all conditions that are bracketed well enough.
-/

namespace Relational.Sql

/-- A comparison whose truth value is left open. -/
inductive Atom where
  | raw (text : String)
  | isNull (field : String)
  | equal (field : String) (literal : Literal)
  | within (columns : List String) (source : Fragment)

/-- A truth value for every comparison. -/
abbrev Assignment := Atom → Truth

mutual

/-- The truth value of a condition, read off its tree. -/
def Cond.value (σ : Assignment) : Cond → Truth
  | .raw text => σ (.raw text)
  | .constant b => some b
  | .isNull field => σ (.isNull field)
  | .equal field l => σ (.equal field l)
  | .conj cs => Truth.all (values σ cs)
  | .disj cs => Truth.any (values σ cs)
  | .paren c => c.value σ
  | .not c => (c.value σ).not
  | .within columns negated source => Truth.negateIf negated (σ (.within columns source))
termination_by structural c => c

/-- The truth values of several conditions. -/
def values (σ : Assignment) : List Cond → List Truth
  | [] => []
  | c :: cs => c.value σ :: values σ cs
termination_by structural cs => cs

end

theorem values_eq_map (σ : Assignment) (cs : List Cond) : values σ cs = cs.map (Cond.value σ) := by
  induction cs with
  | nil => rfl
  | cons c cs ih => rw [values, ih, List.map_cons]

/-! ### Pieces -/

/-- A piece of the text of a condition. A comparison is one piece; so is `NOT IN` with its columns
and its subquery. -/
inductive Piece where
  | atom (a : Atom)
  | notWithin (columns : List String) (source : Fragment)
  | constant (b : Bool)
  | not
  | and
  | or
  | opening
  | closing

/-- The comparison of columns with a subquery, after a word that may negate it. -/
def withinText (columns : List String) (negation : String) (source : Fragment) : String :=
  "(" ++ nameList columns ++ ") " ++ negation ++ "IN (SELECT " ++ nameList columns ++ " FROM " ++
    source.render ++ ")"

namespace Piece

/-- The text of a piece. -/
def text : Piece → String
  | .atom (.raw s) => s
  | .atom (.isNull field) => quote field ++ " IS NULL"
  | .atom (.equal field l) => quote field ++ "=" ++ l.render
  | .atom (.within columns source) => withinText columns "" source
  | .notWithin columns source => withinText columns "NOT " source
  | .constant b => if b then "TRUE" else "FALSE"
  | .not => "NOT "
  | .and => " AND "
  | .or => " OR "
  | .opening => "("
  | .closing => ")"

/-- The text of several pieces. -/
def textAll (ps : List Piece) : String := String.join (ps.map text)

/-- Pieces in brackets. -/
def bracketed (ps : List Piece) : List Piece := .opening :: (ps ++ [.closing])

@[simp] theorem textAll_append (ps qs : List Piece) :
    textAll (ps ++ qs) = textAll ps ++ textAll qs := by
  simp [textAll]

@[simp] theorem textAll_cons (p : Piece) (ps : List Piece) :
    textAll (p :: ps) = p.text ++ textAll ps := by
  simp [textAll]

@[simp] theorem textAll_nil : textAll [] = "" := rfl

theorem textAll_bracketed (ps : List Piece) :
    textAll (bracketed ps) = "(" ++ textAll ps ++ ")" := by
  simp [bracketed, text, String.append_assoc]

theorem textAll_intercalate (p : Piece) (pss : List (List Piece)) :
    textAll ([p].intercalate pss) = Text.joinWith p.text (pss.map textAll) := by
  match pss with
  | [] => simp
  | [ps] => simp
  | ps :: qs :: pss =>
    rw [List.intercalate_cons_cons, textAll_append, textAll_append, textAll_cons, textAll_nil,
      String.append_empty, textAll_intercalate p (qs :: pss)]
    rfl

end Piece

mutual

/-- The pieces of a condition. -/
def Cond.pieces : Cond → List Piece
  | .raw text => [.atom (.raw text)]
  | .constant b => [.constant b]
  | .isNull field => [.atom (.isNull field)]
  | .equal field l => [.atom (.equal field l)]
  | .conj cs => [Piece.and].intercalate (piecesAll cs)
  | .disj cs => [Piece.or].intercalate ((piecesAll cs).map Piece.bracketed)
  | .paren c => Piece.bracketed c.pieces
  | .not c => .not :: Piece.bracketed c.pieces
  | .within columns negated source =>
    Piece.bracketed [if negated then .notWithin columns source else .atom (.within columns source)]
termination_by structural c => c

/-- The pieces of several conditions. -/
def piecesAll : List Cond → List (List Piece)
  | [] => []
  | c :: cs => c.pieces :: piecesAll cs
termination_by structural cs => cs

end

theorem piecesAll_eq_map (cs : List Cond) : piecesAll cs = cs.map Cond.pieces := by
  induction cs with
  | nil => rfl
  | cons c cs ih => rw [piecesAll, ih, List.map_cons]

mutual

/-- The pieces of a condition make up its text. -/
theorem textAll_pieces (c : Cond) : Piece.textAll c.pieces = c.render :=
  match c with
  | .raw text => by simp [Cond.pieces, Piece.text, Cond.render]
  | .constant b => by simp [Cond.pieces, Piece.text, Cond.render]
  | .isNull field => by simp [Cond.pieces, Piece.text, Cond.render]
  | .equal field l => by simp [Cond.pieces, Piece.text, Cond.render]
  | .conj cs => by
    rw [Cond.pieces, Piece.textAll_intercalate, map_textAll_piecesAll cs]
    rfl
  | .disj cs => by
    have bracketed :
        Piece.textAll ∘ Piece.bracketed = (fun s => "(" ++ s ++ ")") ∘ Piece.textAll := by
      funext ps
      exact Piece.textAll_bracketed ps
    rw [Cond.pieces, Piece.textAll_intercalate, List.map_map, bracketed, ← List.map_map,
      map_textAll_piecesAll cs]
    rfl
  | .paren c => by rw [Cond.pieces, Piece.textAll_bracketed, textAll_pieces c, Cond.render]
  | .not c => by
    rw [Cond.pieces, Piece.textAll_cons, Piece.textAll_bracketed, textAll_pieces c, Cond.render]
    simp [Piece.text, ← String.append_assoc]
  | .within columns negated source => by
    have opens : "((" = "(" ++ "(" := rfl
    have ends : "))" = ")" ++ ")" := rfl
    rw [Cond.pieces, Piece.textAll_bracketed, Cond.render, opens, ends]
    cases negated <;> simp [Piece.text, withinText, String.append_assoc, -String.reduceAppend]
termination_by structural c

theorem map_textAll_piecesAll (cs : List Cond) :
    (piecesAll cs).map Piece.textAll = renderAll cs :=
  match cs with
  | [] => rfl
  | c :: cs => by
    rw [piecesAll, List.map_cons, textAll_pieces c, map_textAll_piecesAll cs, renderAll]
termination_by structural cs

end

/-! ### The reader -/

/-- What has been read inside one bracket: the disjunction of the alternatives that are complete,
the conjunction of the operands of the current one, and whether the next operand is negated. -/
structure Frame where
  before : Truth := some false
  current : Truth := some true
  negated : Bool := false

namespace Frame

/-- Take one more operand. -/
def add (f : Frame) (t : Truth) : Frame where
  before := f.before
  current := Truth.all [f.current, t.negateIf f.negated]

/-- Begin the next alternative. -/
def turn (f : Frame) : Frame where
  before := Truth.any [f.before, f.current]

/-- The value of what has been read. -/
def value (f : Frame) : Truth := Truth.any [f.before, f.current]

end Frame

/-- What comes next: anything that may follow an opening bracket, an operand, an operator, or
nothing but the end of the bracket. -/
inductive Phase where
  | start
  | operand
  | operator
  | sealed
  deriving DecidableEq

/-- Whether an operand is missing. -/
def Phase.awaits : Phase → Bool
  | .start | .operand => true
  | .operator | .sealed => false

/-- The bracket that is being read, and those around it from the inside out. -/
structure Reader where
  phase : Phase
  frame : Frame
  outer : List Frame

namespace Reader

/-- Take an operand where one is missing. -/
def operand (r : Reader) (t : Truth) : Option Reader :=
  if r.phase.awaits then some ⟨.operator, r.frame.add t, r.outer⟩ else none

/-- Read one piece. -/
def step (σ : Assignment) (r : Reader) : Piece → Option Reader
  | .atom (.raw text) =>
    if r.phase = .start then some ⟨.sealed, r.frame.add (σ (.raw text)), r.outer⟩ else none
  | .atom a => r.operand (σ a)
  | .notWithin columns source => r.operand (σ (.within columns source)).not
  | .constant b => r.operand (some b)
  | .not =>
    if r.phase.awaits then some ⟨.operand, { r.frame with negated := !r.frame.negated }, r.outer⟩
    else none
  | .and => if r.phase = .operator then some ⟨.operand, r.frame, r.outer⟩ else none
  | .or => if r.phase = .operator then some ⟨.operand, r.frame.turn, r.outer⟩ else none
  | .opening => if r.phase.awaits then some ⟨.start, {}, r.frame :: r.outer⟩ else none
  | .closing =>
    match r.phase.awaits, r.outer with
    | false, f :: outer => some ⟨.operator, f.add r.frame.value, outer⟩
    | _, _ => none

/-- Read pieces from left to right. -/
def run (σ : Assignment) (ps : List Piece) (r : Reader) : Option Reader := ps.foldlM (step σ) r

/-- The value that has been read, if no operand is missing and no bracket is open. -/
def result (r : Reader) : Option Truth :=
  if r.phase.awaits = false ∧ r.outer.length = 0 then some r.frame.value else none

@[simp] theorem run_nil (σ : Assignment) (r : Reader) : run σ [] r = some r := rfl

theorem run_cons (σ : Assignment) (p : Piece) (ps : List Piece) (r : Reader) :
    run σ (p :: ps) r = (r.step σ p).bind (run σ ps) := rfl

theorem run_append (σ : Assignment) (ps qs : List Piece) (r : Reader) :
    run σ (ps ++ qs) r = (run σ ps r).bind (run σ qs) :=
  List.foldlM_append

end Reader

/-- The truth value of a row of pieces. -/
def read (σ : Assignment) (ps : List Piece) : Option Truth :=
  (Reader.run σ ps ⟨.start, {}, []⟩).bind Reader.result

/-! ### What the reader makes of conditions -/

/-- Pieces that can stand between connectives: where an operand is missing, they are read as one
with the given value. -/
def IsOperand (σ : Assignment) (ps : List Piece) (t : Truth) : Prop :=
  ∀ r : Reader, r.phase.awaits = true → r.frame.negated = false →
    r.run σ ps = some ⟨.operator, r.frame.add t, r.outer⟩

/-- Pieces that can fill a bracket: after the opening one they are read to the end, with the given
value. -/
def IsWhole (σ : Assignment) (ps : List Piece) (t : Truth) : Prop :=
  ∀ outer : List Frame, ∃ r : Reader, Reader.run σ ps ⟨.start, {}, outer⟩ = some r ∧
    r.phase.awaits = false ∧ r.outer = outer ∧ r.frame.value = t

section Reads

variable {σ : Assignment} {ps : List Piece} {t : Truth}

theorem value_add (t : Truth) : (({} : Frame).add t).value = t := by
  rcases t with _ | _ | _ <;> rfl

theorem IsOperand.isWhole (h : IsOperand σ ps t) : IsWhole σ ps t := by
  intro outer
  exact ⟨_, h ⟨.start, {}, outer⟩ rfl rfl, rfl, rfl, value_add t⟩

/-- A bracket is an operand, also where the next operand is negated. -/
theorem run_bracketed (h : IsWhole σ ps t) {r : Reader} (awaits : r.phase.awaits = true) :
    r.run σ (Piece.bracketed ps) = some ⟨.operator, r.frame.add t, r.outer⟩ := by
  obtain ⟨inner, run, done, outer, rfl⟩ := h (r.frame :: r.outer)
  have opened : r.step σ .opening = some ⟨.start, {}, r.frame :: r.outer⟩ := if_pos awaits
  have closed :
      inner.step σ .closing = some ⟨.operator, r.frame.add inner.frame.value, r.outer⟩ := by
    simp [Reader.step, done, outer]
  rw [Piece.bracketed, Reader.run_cons, opened, Option.bind_some, Reader.run_append, run,
    Option.bind_some, Reader.run_cons, closed, Option.bind_some, Reader.run_nil]

theorem isOperand_bracketed (h : IsWhole σ ps t) : IsOperand σ (Piece.bracketed ps) t :=
  fun _ awaits _ => run_bracketed h awaits

theorem isOperand_not (h : IsWhole σ ps t) : IsOperand σ (.not :: Piece.bracketed ps) t.not := by
  intro r awaits plain
  have marked : r.step σ .not = some ⟨.operand, { r.frame with negated := true }, r.outer⟩ := by
    simp [Reader.step, awaits, plain]
  rw [Reader.run_cons, marked, Option.bind_some, run_bracketed h rfl]
  simp [Frame.add, plain]

/-- A piece that the reader takes as an operand. -/
theorem isOperand_single {p : Piece} (h : ∀ r : Reader, r.step σ p = r.operand t) :
    IsOperand σ [p] t := by
  intro r awaits _
  rw [Reader.run_cons, h, Reader.operand, if_pos awaits]
  rfl

theorem add_add (f : Frame) (plain : f.negated = false) (t : Truth) (ts : List Truth) :
    (f.add t).add (Truth.all ts) = f.add (Truth.all (t :: ts)) := by
  have same : Truth.all [Truth.all [f.current, t], Truth.all ts] =
      Truth.all [f.current, Truth.all (t :: ts)] := by
    rw [← Truth.all_cons, Truth.all_cons_all, ← Truth.all_cons]
    rfl
  simp [Frame.add, plain, same]

/-- Operands with `AND` between them are read as one operand. -/
theorem isOperand_conj {cs : List Cond} (some : cs ≠ [])
    (h : ∀ c ∈ cs, IsOperand σ c.pieces (c.value σ)) :
    IsOperand σ ([Piece.and].intercalate (cs.map Cond.pieces))
      (Truth.all (cs.map (Cond.value σ))) := by
  induction cs with
  | nil => exact absurd rfl some
  | cons c cs ih =>
    have first := h c (by simp)
    cases cs with
    | nil => simpa using first
    | cons d cs =>
      intro r awaits plain
      have rest := ih (by simp) fun c hc => h c (by simp [hc])
      have next : Reader.step σ ⟨.operator, r.frame.add (c.value σ), r.outer⟩ .and =
          Option.some ⟨.operand, r.frame.add (c.value σ), r.outer⟩ := rfl
      rw [List.map_cons, List.map_cons, List.intercalate_cons_cons, List.append_assoc,
        Reader.run_append, first r awaits plain, Option.bind_some, List.singleton_append,
        Reader.run_cons, next, Option.bind_some, ← List.map_cons, rest _ rfl rfl,
        add_add r.frame plain]
      rfl

/-- Brackets with `OR` between them are read as alternatives, after those before them. -/
theorem run_alternatives {cs : List Cond} (some : cs ≠ [])
    (h : ∀ c ∈ cs, IsWhole σ c.pieces (c.value σ)) {r : Reader} (awaits : r.phase.awaits = true)
    (fresh : r.frame.current = .some true) (plain : r.frame.negated = false) :
    ∃ r', r.run σ ([Piece.or].intercalate ((cs.map Cond.pieces).map Piece.bracketed)) = .some r' ∧
      r'.phase = .operator ∧ r'.outer = r.outer ∧
      r'.frame.value = Truth.any (r.frame.before :: cs.map (Cond.value σ)) := by
  induction cs generalizing r with
  | nil => exact absurd rfl some
  | cons c cs ih =>
    have first := run_bracketed (h c (by simp)) awaits
    -- Each alternative is a single bracket, so its conjunction has one part.
    have alone : Truth.all [r.frame.current, (c.value σ).negateIf r.frame.negated] = c.value σ := by
      rw [fresh, plain, Truth.all_cons_true, Truth.negateIf_false, Truth.all_singleton]
    cases cs with
    | nil =>
      refine ⟨⟨.operator, r.frame.add (c.value σ), r.outer⟩, by simpa using first, rfl, rfl, ?_⟩
      simp only [Frame.value, Frame.add, alone, List.map_cons, List.map_nil]
    | cons d cs =>
      have next : Reader.step σ ⟨.operator, r.frame.add (c.value σ), r.outer⟩ .or =
          Option.some ⟨.operand, (r.frame.add (c.value σ)).turn, r.outer⟩ := rfl
      have others : ∀ c ∈ d :: cs, IsWhole σ c.pieces (c.value σ) := fun c hc => h c (by simp [hc])
      obtain ⟨r', run, done, outer, value⟩ := ih (by simp) others
        (r := ⟨.operand, (r.frame.add (c.value σ)).turn, r.outer⟩) rfl rfl rfl
      refine ⟨r', ?_, done, outer, ?_⟩
      · rw [List.map_cons, List.map_cons, List.map_cons, List.map_cons, List.intercalate_cons_cons,
          List.append_assoc, Reader.run_append, first, Option.bind_some, List.singleton_append,
          Reader.run_cons, next, Option.bind_some, ← List.map_cons, ← List.map_cons, run]
      · rw [value]
        simp only [Frame.turn, Frame.add, alone, Truth.any_cons_any]
        rfl

end Reads

/-- Conditions whose text has the brackets that it needs: parts of a conjunction are neither
alternatives nor SQL text of the user, and no list is empty. -/
inductive IsReadable : Cond → Prop
  | raw (text : String) : IsReadable (.raw text)
  | constant (b : Bool) : IsReadable (.constant b)
  | isNull (field : String) : IsReadable (.isNull field)
  | equal (field : String) (l : Literal) : IsReadable (.equal field l)
  | conj {cs : List Cond} (some : cs ≠ []) (tight : ∀ c ∈ cs, c.isLoose = false)
    (all : ∀ c ∈ cs, IsReadable c) : IsReadable (.conj cs)
  | disj {cs : List Cond} (some : cs ≠ []) (all : ∀ c ∈ cs, IsReadable c) : IsReadable (.disj cs)
  | paren {c : Cond} (h : IsReadable c) : IsReadable (.paren c)
  | not {c : Cond} (h : IsReadable c) : IsReadable (.not c)
  | within (columns : List String) (negated : Bool) (source : Fragment) :
    IsReadable (.within columns negated source)

/-- A readable condition fills a bracket, and it is an operand unless it is loose. -/
theorem IsReadable.isWhole {c : Cond} (h : IsReadable c) (σ : Assignment) :
    IsWhole σ c.pieces (c.value σ) ∧
      (c.isLoose = false → IsOperand σ c.pieces (c.value σ)) := by
  have tight {c : Cond} (h : IsOperand σ c.pieces (c.value σ)) :
      IsWhole σ c.pieces (c.value σ) ∧
        (c.isLoose = false → IsOperand σ c.pieces (c.value σ)) := ⟨h.isWhole, fun _ => h⟩
  induction h with
  | raw text =>
    -- SQL text of the user is the one thing, besides alternatives, that is no operand.
    refine ⟨fun outer => ⟨_, rfl, rfl, rfl, value_add _⟩, fun h => nomatch h⟩
  | constant b => exact tight (isOperand_single fun _ => rfl)
  | isNull field => exact tight (isOperand_single fun _ => rfl)
  | equal field l => exact tight (isOperand_single fun _ => rfl)
  | conj some loose _ ih =>
    apply tight
    rw [Cond.pieces, Cond.value, piecesAll_eq_map, values_eq_map]
    exact isOperand_conj some fun c hc => (ih c hc).2 (loose c hc)
  | @disj cs some _ ih =>
    refine ⟨fun outer => ?_, fun h => nomatch h⟩
    obtain ⟨r, run, done, same, value⟩ := @run_alternatives σ cs some (fun c hc => (ih c hc).1)
      ⟨.start, {}, outer⟩ rfl rfl rfl
    rw [Cond.pieces, Cond.value, piecesAll_eq_map, values_eq_map]
    refine ⟨r, run, by rw [done]; rfl, same, ?_⟩
    rw [value, Truth.any_cons_false]
  | paren _ ih => exact tight (isOperand_bracketed ih.1)
  | not _ ih => exact tight (isOperand_not ih.1)
  | within columns negated source =>
    apply tight
    cases negated with
    | false => exact isOperand_bracketed (isOperand_single fun _ => rfl).isWhole
    | true => exact isOperand_bracketed (isOperand_single fun _ => rfl).isWhole

/-- The reader arrives at the value of the tree. -/
theorem read_pieces {c : Cond} (h : IsReadable c) (σ : Assignment) :
    read σ c.pieces = some (c.value σ) := by
  obtain ⟨r, run, done, outer, value⟩ := (h.isWhole σ).1 []
  simp [read, run, Reader.result, done, outer, value]

end Relational.Sql

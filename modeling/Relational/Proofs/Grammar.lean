import Mathlib.Data.List.TakeWhile
import Relational.Attribute.Spec

/-!
# The grammar of specifications

A specification is read from the right: the last word of the trimmed text is the target, before it
stand blanks, the arrow, more blanks and the source. `Spec.Splits` states the grammar without a
direction. Since a target contains neither blanks nor arrows, there is at most one way to split a
text, and reading finds it if it exists.
-/

namespace Relational

/-! ### Blanks -/

namespace Text

/-- The points of a finite set, given where membership in it changes. -/
def points : List Nat → List Nat
  | first :: next :: changes => List.range' first (next - first) ++ points changes
  | _ => []

theorem mem_points_of_toggled {changes : List Nat} {n : Nat} (even : changes.length % 2 = 0)
    (h : toggled false changes n = true) : n ∈ points changes := by
  fun_induction points changes with
  | case1 first next changes ih =>
    simp only [toggled] at h
    split at h
    · cases h
    · rw [List.mem_append, List.mem_range'_1]
      split at h
      · left
        omega
      · refine .inr (ih ?_ h)
        simp only [List.length_cons] at even
        omega
  | case2 changes other =>
    rcases changes with _ | ⟨first, _ | ⟨next, changes⟩⟩
    · cases h
    · cases even
    · exact absurd rfl (other first next changes)

theorem isWord_eq_false_of_isBlank {c : Char} (h : isBlank c = true) : isWord c = false := by
  have none : ((points blankChanges).map Char.ofNat).all (fun c => !isWord c) = true := by
    decide +kernel
  have listed : c ∈ (points blankChanges).map Char.ofNat :=
    List.mem_map.mpr ⟨c.toNat, mem_points_of_toggled rfl h, Char.ofNat_toNat c⟩
  simpa using List.all_eq_true.mp none c listed

/-- Text that consists of blanks. -/
def AreBlanks (cs : List Char) : Prop := ∀ c ∈ cs, isBlank c = true

/-- Text without a blank at either end. -/
structure IsTrimmed (cs : List Char) : Prop where
  first : ∀ c ∈ cs.head?, isBlank c = false
  last : ∀ c ∈ cs.getLast?, isBlank c = false

/-- A text is another one with blanks at its ends, which has none there itself. -/
def HasTrimmedForm (text s : List Char) : Prop :=
  IsTrimmed s ∧ ∃ before after, AreBlanks before ∧ AreBlanks after ∧ text = before ++ s ++ after

section Runs

variable {α : Type} {p : α → Bool} {as bs cs : List α}

/-- A list is cut before its first item that does not satisfy a condition. -/
theorem takeWhile_dropWhile_eq_iff :
    (cs.takeWhile p = as ∧ cs.dropWhile p = bs) ↔
      cs = as ++ bs ∧ (∀ a ∈ as, p a = true) ∧ ∀ b ∈ bs.head?, p b = false := by
  constructor
  · rintro ⟨rfl, rfl⟩
    refine ⟨List.takeWhile_append_dropWhile.symm, fun a ha => List.mem_takeWhile_imp ha, ?_⟩
    intro b hb
    have stop := List.head?_dropWhile_not p cs
    rw [Option.mem_def.mp hb] at stop
    exact stop
  · rintro ⟨rfl, ha, hb⟩
    rw [List.takeWhile_append_of_pos ha, List.dropWhile_append_of_pos ha]
    cases bs with
    | nil => simp
    | cons b bs =>
      have stop := hb b rfl
      simp [stop]

theorem dropWhile_eq_iff :
    cs.dropWhile p = bs ↔
      ∃ as, cs = as ++ bs ∧ (∀ a ∈ as, p a = true) ∧ ∀ b ∈ bs.head?, p b = false := by
  constructor
  · intro h
    exact ⟨_, takeWhile_dropWhile_eq_iff.mp ⟨rfl, h⟩⟩
  · rintro ⟨as, h⟩
    exact (takeWhile_dropWhile_eq_iff.mpr h).2

end Runs

theorem areBlanks_reverse {cs : List Char} (h : AreBlanks cs) : AreBlanks cs.reverse :=
  fun c hc => h c (List.mem_reverse.mp hc)

/-- A text without the longest run of some characters behind it. -/
theorem dropSuffixWhile_eq_iff {p : Char → Bool} {cs s : List Char} :
    dropSuffixWhile p cs = s ↔
      ∃ after, (∀ c ∈ after, p c = true) ∧ cs = s ++ after ∧ ∀ c ∈ s.getLast?, p c = false := by
  rw [dropSuffixWhile, List.reverse_eq_iff, dropWhile_eq_iff, List.head?_reverse]
  constructor
  · rintro ⟨after, e, all, last⟩
    refine ⟨after.reverse, fun c hc => all c (List.mem_reverse.mp hc), ?_, last⟩
    rw [← List.reverse_inj, e, List.reverse_append, List.reverse_reverse]
  · rintro ⟨after, all, rfl, last⟩
    exact ⟨after.reverse, List.reverse_append, fun c hc => all c (List.mem_reverse.mp hc), last⟩

/-- What is put around a text is dropped again, if the text has none of it at its ends. -/
theorem trimWhile_append {p : Char → Bool} {before s after : List Char}
    (first : ∀ c ∈ s.head?, p c = false) (last : ∀ c ∈ s.getLast?, p c = false)
    (hb : ∀ c ∈ before, p c = true) (ha : ∀ c ∈ after, p c = true) :
    trimWhile p (before ++ s ++ after) = s := by
  rw [trimWhile, List.append_assoc, dropSuffixWhile_eq_iff]
  cases s with
  | nil =>
    refine ⟨[], List.forall_mem_nil _, ?_, last⟩
    exact List.dropWhile_eq_nil_iff.mpr (List.forall_mem_append.mpr ⟨hb, ha⟩)
  | cons c cs => exact ⟨after, ha, dropWhile_eq_iff.mpr ⟨before, rfl, hb, first⟩, last⟩

theorem trim_eq_of_isTrimmed {before s after : List Char} (hs : IsTrimmed s)
    (hb : AreBlanks before) (ha : AreBlanks after) : trim (before ++ s ++ after) = s :=
  trimWhile_append hs.first hs.last hb ha

theorem hasTrimmedForm_trim (cs : List Char) : HasTrimmedForm cs (trim cs) := by
  obtain ⟨before, e, blanks, first⟩ := dropWhile_eq_iff.mp (rfl : cs.dropWhile isBlank = _)
  obtain ⟨after, blanks', e', last⟩ := dropSuffixWhile_eq_iff.mp (rfl : trim cs = _)
  refine ⟨⟨fun c hc => first c ?_, last⟩, before, after, blanks, blanks', ?_⟩
  · rw [e', List.head?_append, Option.mem_def.mp hc]
    rfl
  · rw [List.append_assoc, ← e', ← e]

/-- Every text has exactly one trimmed form, which trimming finds. -/
theorem hasTrimmedForm_iff {cs s : List Char} : HasTrimmedForm cs s ↔ s = trim cs := by
  constructor
  · rintro ⟨trimmed, before, after, hb, ha, rfl⟩
    exact (trim_eq_of_isTrimmed trimmed hb ha).symm
  · rintro rfl
    exact hasTrimmedForm_trim cs

end Text

/-! ### Splitting at the arrow -/

namespace Spec

open Text

/-- The characters between a source and its target. -/
def arrow : List Char := ['-', '>']

/-- A target: an ASCII letter or an underscore, followed by word characters. -/
def IsTarget (y : List Char) : Prop := beginsName y = true ∧ ∀ c ∈ y, isWord c = true

/-- A text is a source, an arrow and a target, with blanks before and after the arrow. -/
structure Splits (s x w₁ w₂ y : List Char) : Prop where
  text : s = x ++ w₁ ++ arrow ++ w₂ ++ y
  nonempty : x ≠ []
  trimmed : IsTrimmed x
  before : AreBlanks w₁
  after : AreBlanks w₂
  target : IsTarget y

/-- Seen from the right, an arrow stands between blanks and is followed by something else. -/
theorem dropArrow?_eq_some_iff {cs ds : List Char} :
    dropArrow? cs = some ds ↔
      ∃ w₁ w₂, AreBlanks w₁ ∧ AreBlanks w₂ ∧ cs = w₂ ++ (arrow.reverse ++ (w₁ ++ ds)) ∧
        ∀ c ∈ ds.head?, isBlank c = false := by
  constructor
  · intro h
    unfold dropArrow? at h
    split at h
    · rename_i rest toArrow
      obtain ⟨w₂, e, blanks, -⟩ := dropWhile_eq_iff.mp toArrow
      obtain ⟨w₁, e', blanks', first⟩ := dropWhile_eq_iff.mp (Option.some.inj h)
      exact ⟨w₁, w₂, blanks', blanks, by rw [e, e']; rfl, first⟩
    · cases h
  · rintro ⟨w₁, w₂, blanks, blanks', e, first⟩
    have toArrow : cs.dropWhile isBlank = arrow.reverse ++ (w₁ ++ ds) := by
      refine dropWhile_eq_iff.mpr ⟨w₂, e, blanks', fun c hc => ?_⟩
      cases hc
      decide
    rw [dropArrow?, toArrow]
    exact congrArg some (dropWhile_eq_iff.mpr ⟨w₁, rfl, blanks, first⟩)

theorem splitArrow?_eq_some_iff {s x y : List Char} :
    splitArrow? s = some (x, y) ↔
      ∃ rest, lastWord s.reverse = (y, rest) ∧ beginsName y = true ∧
        dropArrow? rest = some x.reverse ∧ x ≠ [] := by
  unfold splitArrow?
  obtain ⟨word, rest⟩ := lastWord s.reverse
  constructor
  · intro h
    dsimp only at h
    split at h
    · rename_i begins
      split at h
      · rename_i found
        cases h
        refine ⟨rest, rfl, begins, ?_, by simp⟩
        rw [found, List.reverse_reverse]
      · cases h
    · cases h
  · rintro ⟨_, e, begins, found, nonempty⟩
    cases e
    obtain ⟨c, cs, e⟩ := List.exists_cons_of_ne_nil (mt List.reverse_eq_nil_iff.mp nonempty)
    dsimp only
    rw [if_pos begins, found, e, ← List.reverse_reverse x, e]

theorem lastWord_eq_iff {cs y rest : List Char} :
    lastWord cs = (y, rest) ↔
      cs = y.reverse ++ rest ∧ (∀ c ∈ y, isWord c = true) ∧ ∀ c ∈ rest.head?, isWord c = false := by
  rw [lastWord, Prod.mk.injEq, List.reverse_eq_iff, takeWhile_dropWhile_eq_iff]
  simp only [List.mem_reverse]

/-- Before a target there is no word character. -/
theorem isWord_eq_false_before_target {w rest : List Char} (hw : AreBlanks w) :
    ∀ c ∈ (w ++ (arrow.reverse ++ rest)).head?, isWord c = false := by
  intro c hc
  cases w with
  | nil =>
    cases hc
    decide
  | cons d w =>
    cases hc
    exact isWord_eq_false_of_isBlank (hw _ List.mem_cons_self)

/-- Reading from the right finds the parts of a text, if it can be split. -/
theorem splitArrow?_eq_some_iff_splits {s x y : List Char}
    (hs : ∀ c ∈ s.head?, isBlank c = false) :
    splitArrow? s = some (x, y) ↔ ∃ w₁ w₂, Splits s x w₁ w₂ y := by
  rw [splitArrow?_eq_some_iff]
  constructor
  · rintro ⟨rest, last, begins, found, nonempty⟩
    obtain ⟨e, words, -⟩ := lastWord_eq_iff.mp last
    obtain ⟨w₁, w₂, blanks, blanks', rfl, ends⟩ := dropArrow?_eq_some_iff.mp found
    have text : s = x ++ w₁.reverse ++ arrow ++ w₂.reverse ++ y := by
      rw [← List.reverse_inj, e]
      simp
    refine ⟨w₁.reverse, w₂.reverse, text, nonempty, ⟨fun c hc => hs c ?_, ?_⟩,
      areBlanks_reverse blanks, areBlanks_reverse blanks', begins, words⟩
    · obtain ⟨d, ds, rfl⟩ := List.exists_cons_of_ne_nil nonempty
      rw [text]
      exact hc
    · rwa [List.head?_reverse] at ends
  · rintro ⟨w₁, w₂, rfl, nonempty, trimmed, before, after, begins, words⟩
    refine ⟨w₂.reverse ++ (arrow.reverse ++ (w₁.reverse ++ x.reverse)), ?_, begins, ?_, nonempty⟩
    · rw [lastWord_eq_iff]
      exact ⟨by simp, words, isWord_eq_false_before_target (areBlanks_reverse after)⟩
    · rw [dropArrow?_eq_some_iff]
      refine ⟨w₁.reverse, w₂.reverse, areBlanks_reverse before, areBlanks_reverse after, rfl, ?_⟩
      rw [List.head?_reverse]
      exact trimmed.last

section Splits

variable {s x w₁ w₂ y x' w₁' w₂' y' : List Char}

/-- A text that can be split has no blanks at its ends. -/
theorem Splits.isTrimmed (h : Splits s x w₁ w₂ y) : IsTrimmed s := by
  obtain ⟨rfl, nonempty, trimmed, -, -, begins, words⟩ := h
  refine ⟨fun c hc => trimmed.first c ?_, fun c hc => ?_⟩
  · obtain ⟨d, ds, rfl⟩ := List.exists_cons_of_ne_nil nonempty
    exact hc
  · have last : c ∈ y.getLast? := by
      cases y with
      | nil => cases begins
      | cons d ds => simpa [List.getLast?_append] using hc
    have word := words c (List.mem_of_getLast? last)
    by_contra blank
    rw [Bool.not_eq_false] at blank
    rw [isWord_eq_false_of_isBlank blank] at word
    cases word

/-- There is at most one way to split a text. -/
theorem Splits.unique (h : Splits s x w₁ w₂ y) (h' : Splits s x' w₁' w₂' y') :
    x = x' ∧ w₁ = w₁' ∧ w₂ = w₂' ∧ y = y' := by
  have read {x w₁ w₂ y : List Char} (h : Splits s x w₁ w₂ y) : splitArrow? s = some (x, y) :=
    (splitArrow?_eq_some_iff_splits h.isTrimmed.first).mpr ⟨w₁, w₂, h⟩
  obtain ⟨rfl, rfl⟩ := Prod.mk.inj (Option.some.inj ((read h).symm.trans (read h')))
  have middle : w₁ ++ (arrow ++ w₂) = w₁' ++ (arrow ++ w₂') := by
    have text := h.text.symm.trans h'.text
    simp only [List.append_assoc, List.append_cancel_left_eq] at text
    have ended : w₁ ++ (arrow ++ w₂) ++ y = w₁' ++ (arrow ++ w₂') ++ y := by
      simpa only [List.append_assoc] using text
    exact List.append_cancel_right ended
  have cut {w : List Char} (blanks : AreBlanks w) (rest : List Char) :
      (w ++ (arrow ++ rest)).takeWhile isBlank = w ∧
        (w ++ (arrow ++ rest)).dropWhile isBlank = arrow ++ rest := by
    refine takeWhile_dropWhile_eq_iff.mpr ⟨rfl, blanks, fun c hc => ?_⟩
    cases hc
    decide
  obtain ⟨before, rest⟩ := cut h.before w₂
  rw [middle, (cut h'.before w₂').1] at before
  rw [middle, (cut h'.before w₂').2] at rest
  exact ⟨rfl, before.symm, (List.append_cancel_left rest).symm, rfl⟩

/-- The arrow at which a text is split is its last one. -/
theorem Splits.last (h : Splits s x w₁ w₂ y) {as bs : List Char} (hs : s = as ++ arrow ++ bs) :
    as.length ≤ (x ++ w₁).length := by
  have other : '>' ∉ w₂ ++ y := by
    intro hm
    rcases List.mem_append.mp hm with hm | hm
    · exact absurd (h.after _ hm) (by decide)
    · exact absurd (h.target.2 _ hm) (by decide)
  have e : as ++ (arrow ++ bs) = (x ++ w₁) ++ (arrow ++ (w₂ ++ y)) := by
    rw [← List.append_assoc, ← hs, h.text]
    simp [List.append_assoc]
  rcases List.append_eq_append_iff.mp e with ⟨cs, before, -⟩ | ⟨cs, rfl, after⟩
  · rw [before, List.length_append]
    omega
  · -- A later arrow would stand among the blanks and the target.
    rcases cs with _ | ⟨c, _ | ⟨d, ds⟩⟩
    · simp
    · cases after
    · have rest : w₂ ++ y = ds ++ (arrow ++ bs) := (List.cons.inj (List.cons.inj after).2).2
      rw [rest] at other
      exact absurd (by simp [arrow]) other

end Splits

/-! ### Reading specifications -/

/-- What the grammar says of a trimmed text: it is empty, an asterisk, a source with a target, or
anything else. -/
structure IsReading (s : List Char) (result : Except Error Spec) : Prop where
  error : ∀ err, result = .error err ↔ s = [] ∧ err = .emptySpec
  wildcard : result = .ok .wildcard ↔ s = ['*']
  rename : ∀ x y, result = .ok (.rename x y) ↔
    (∃ w₁ w₂, Splits s x.toList w₁ w₂ y.toList) ∧ isIdentifier x = true
  compute : ∀ x y, result = .ok (.compute x y) ↔
    (∃ w₁ w₂, Splits s x.toList w₁ w₂ y.toList) ∧ isIdentifier x = false
  plain : ∀ n, result = .ok (.plain n) ↔
    n.toList = s ∧ s ≠ [] ∧ s ≠ ['*'] ∧ ¬ ∃ x w₁ w₂ y, Splits s x w₁ w₂ y

/-- The specification with a source and a target. -/
def withTarget (x y : List Char) : Spec :=
  if isPlainName x then .rename (String.ofList x) (String.ofList y)
  else .compute (String.ofList x) (String.ofList y)

theorem parse_cases (text : String) {s : List Char} (hs : trim text.toList = s) :
    (s = [] ∧ parse text = .error .emptySpec) ∨ (s = ['*'] ∧ parse text = .ok .wildcard) ∨
      (∃ x w₁ w₂ y, Splits s x w₁ w₂ y ∧ parse text = .ok (withTarget x y)) ∨
      (s ≠ [] ∧ s ≠ ['*'] ∧ (¬ ∃ x w₁ w₂ y, Splits s x w₁ w₂ y) ∧
        parse text = .ok (.plain (String.ofList s))) := by
  have first := (hasTrimmedForm_iff.mpr hs.symm).1.first
  unfold parse
  rw [hs]
  split
  · exact .inl ⟨rfl, rfl⟩
  · exact .inr (.inl ⟨rfl, rfl⟩)
  · rename_i some other
    cases found : splitArrow? s with
    | none =>
      refine .inr (.inr (.inr ⟨some, other, ?_, rfl⟩))
      rintro ⟨x, w₁, w₂, y, h⟩
      rw [(splitArrow?_eq_some_iff_splits first).mpr ⟨w₁, w₂, h⟩] at found
      cases found
    | some parts =>
      obtain ⟨x, y⟩ := parts
      obtain ⟨w₁, w₂, h⟩ := (splitArrow?_eq_some_iff_splits first).mp found
      refine .inr (.inr (.inl ⟨x, w₁, w₂, y, h, ?_⟩))
      dsimp only [withTarget]
      split <;> rfl

theorem Splits.ne {s x w₁ w₂ y : List Char} (h : Splits s x w₁ w₂ y) : s ≠ [] ∧ s ≠ ['*'] := by
  have mark : '>' ∈ s := by
    rw [h.text]
    simp [arrow]
  constructor <;> rintro rfl
  · cases mark
  · exact absurd mark (by decide)

theorem ofList_eq_iff {cs : List Char} {s : String} : String.ofList cs = s ↔ s.toList = cs := by
  rw [← String.toList_inj, String.toList_ofList, eq_comm]

theorem withTarget_eq_rename_iff {x y : List Char} {x' y' : String} :
    withTarget x y = .rename x' y' ↔
      (x'.toList = x ∧ y'.toList = y) ∧ isIdentifier x' = true := by
  rw [withTarget]
  split
  · rename_i name
    rw [Spec.rename.injEq, ofList_eq_iff, ofList_eq_iff]
    refine (and_iff_left_of_imp ?_).symm
    rintro ⟨rfl, -⟩
    exact name
  · rename_i other
    refine iff_of_false (by simp) ?_
    rintro ⟨⟨rfl, -⟩, name⟩
    exact other name

theorem withTarget_eq_compute_iff {x y : List Char} {x' y' : String} :
    withTarget x y = .compute x' y' ↔
      (x'.toList = x ∧ y'.toList = y) ∧ isIdentifier x' = false := by
  rw [withTarget]
  split
  · rename_i name
    refine iff_of_false (by simp) ?_
    rintro ⟨⟨rfl, -⟩, other⟩
    exact Bool.false_ne_true (other.symm.trans name)
  · rename_i other
    rw [Spec.compute.injEq, ofList_eq_iff, ofList_eq_iff]
    refine (and_iff_left_of_imp ?_).symm
    rintro ⟨rfl, -⟩
    exact Bool.eq_false_iff.mpr other

theorem withTarget_ne {x y : List Char} :
    withTarget x y ≠ .wildcard ∧ ∀ n, withTarget x y ≠ .plain n := by
  rw [withTarget]
  split <;> simp

theorem isReading_parse (text : String) : IsReading (trim text.toList) (parse text) := by
  generalize hs : trim text.toList = s
  obtain ⟨rfl, h⟩ | ⟨rfl, h⟩ | ⟨x, w₁, w₂, y, split, h⟩ | ⟨some, other, none, h⟩ :=
    parse_cases text hs <;> rw [h]
  · have no (x w₁ w₂ y : List Char) : ¬ Splits [] x w₁ w₂ y := fun split => split.ne.1 rfl
    constructor <;> simp [no, @eq_comm _ Error.emptySpec]
  · have no (x w₁ w₂ y : List Char) : ¬ Splits ['*'] x w₁ w₂ y := fun split => split.ne.2 rfl
    constructor <;> simp [no]
  · have same (x' y' : List Char) :
        (∃ v₁ v₂, Splits s x' v₁ v₂ y') ↔ x' = x ∧ y' = y := by
      constructor
      · rintro ⟨v₁, v₂, split'⟩
        obtain ⟨rfl, -, -, rfl⟩ := split'.unique split
        exact ⟨rfl, rfl⟩
      · rintro ⟨rfl, rfl⟩
        exact ⟨w₁, w₂, split⟩
    have some : ∃ x w₁ w₂ y, Splits s x w₁ w₂ y := ⟨x, w₁, w₂, y, split⟩
    obtain ⟨noWildcard, noPlain⟩ := @withTarget_ne x y
    constructor <;> simp [split.ne, same, some, withTarget_eq_rename_iff,
      withTarget_eq_compute_iff, noWildcard, noPlain]
  · have no (x w₁ w₂ y : List Char) : ¬ Splits s x w₁ w₂ y := fun h => none ⟨x, w₁, w₂, y, h⟩
    constructor <;> simp [no, some, other, ofList_eq_iff]

/-- A source and a target written with an arrow between them are read back. -/
theorem Splits.parse_eq {s x w₁ w₂ y before after : List Char} (h : Splits s x w₁ w₂ y)
    (hb : AreBlanks before) (ha : AreBlanks after) :
    parse (String.ofList (before ++ s ++ after)) = .ok (withTarget x y) := by
  have hs : trim (String.ofList (before ++ s ++ after)).toList = s := by
    rw [String.toList_ofList, trim_eq_of_isTrimmed h.isTrimmed hb ha]
  obtain ⟨e, -⟩ | ⟨e, -⟩ | ⟨x', w₁', w₂', y', h', read⟩ | ⟨-, -, none, -⟩ := parse_cases _ hs
  · exact absurd e h.ne.1
  · exact absurd e h.ne.2
  · obtain ⟨rfl, -, -, rfl⟩ := h.unique h'
    exact read
  · exact absurd ⟨x, w₁, w₂, y, h⟩ none

/-- **Specifications are read by their grammar.** Every text has one trimmed form, and what is read
depends on it as the grammar says. There is at most one way to split it into a source and a target,
which is at its last arrow. A source and a target that are written with blanks anywhere around the
arrow and around both are read back. -/
theorem parse_grammar (text : String) :
    (∃ s, (∀ t, HasTrimmedForm text.toList t ↔ t = s) ∧ IsReading s (parse text)) ∧
      (∀ s x w₁ w₂ y, Splits s x w₁ w₂ y →
        (∀ x' w₁' w₂' y', Splits s x' w₁' w₂' y' → x' = x ∧ w₁' = w₁ ∧ w₂' = w₂ ∧ y' = y) ∧
        (∀ as bs, s = as ++ arrow ++ bs → as.length ≤ (x ++ w₁).length) ∧
        ∀ before after, AreBlanks before → AreBlanks after →
          parse (String.ofList (before ++ s ++ after)) = .ok (withTarget x y)) := by
  refine ⟨⟨trim text.toList, fun t => hasTrimmedForm_iff, isReading_parse text⟩, ?_⟩
  intro s x w₁ w₂ y h
  exact ⟨fun _ _ _ _ h' => h'.unique h, fun _ _ e => h.last e, fun _ _ hb ha => h.parse_eq hb ha⟩

example : (parse " if(a->b, 1, 0)\n -> n ").toOption = some (.compute "if(a->b, 1, 0)" "n") := by
  decide +kernel

end Spec
end Relational

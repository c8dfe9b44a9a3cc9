import Relational.Proofs.Lexical
import Relational.Proofs.Numerals

/-!
# Brackets and words outside of quotes

A scanner reads any text and keeps what stands outside of quoted identifiers and quoted text: the
brackets, and the words between all other characters. A mark that is written twice ends a quoted
token and begins another one right away, so it does not matter that both are one. In text, a
backslash takes the meaning from the character after it.

Text is well bracketed if its quotes are closed and its brackets match, and strictly so if the word
`OR` does not occur outside of brackets. Both are properties of the parts of a text, as long as no
word goes on from one part to the next.
-/

namespace Relational.Sql

/-- What is found outside of quotes: brackets and words. -/
inductive Sign where
  | opening
  | closing
  | word (cs : List Char)
  deriving DecidableEq, Repr

/-- Where a scanner stands: outside of quotes with the part of a word, between two marks, or after a
backslash in text. -/
inductive Spot where
  | outside (word : List Char)
  | inside (q : Quotation)
  | escaped

/-- A scanner: where it stands, and what it has found. -/
structure Scanner where
  spot : Spot := .outside []
  signs : List Sign := []

namespace Scanner

/-- A word is found when it ends, unless it is empty. -/
def ended (signs : List Sign) : List Char → List Sign
  | [] => signs
  | c :: cs => signs ++ [.word (c :: cs)]

/-- Read a character that no word contains. -/
def separate (signs : List Sign) (c : Char) : Scanner :=
  if c = '(' then ⟨.outside [], signs ++ [.opening]⟩
  else if c = ')' then ⟨.outside [], signs ++ [.closing]⟩
  else if c = backtick then ⟨.inside .name, signs⟩
  else if c = apostrophe then ⟨.inside .text, signs⟩
  else ⟨.outside [], signs⟩

/-- Read a character. -/
def step (s : Scanner) (c : Char) : Scanner :=
  match s.spot with
  | .outside word =>
    if isNamePart c then ⟨.outside (word ++ [c]), s.signs⟩ else separate (ended s.signs word) c
  | .inside q =>
    -- If the mark is written twice, the next step is inside again.
    if c = q.mark then ⟨.outside [], s.signs⟩
    else if c = backslash ∧ q = .text then ⟨.escaped, s.signs⟩
    else s
  | .escaped => ⟨.inside .text, s.signs⟩

/-- Read characters from left to right. -/
def run (s : Scanner) (cs : List Char) : Scanner := cs.foldl step s

/-- All that was found, if the quotes are closed. -/
def settled (s : Scanner) : Option (List Sign) :=
  match s.spot with
  | .outside word => some (ended s.signs word)
  | .inside _ | .escaped => none

/-- A scanner that has found more before. -/
def after (before : List Sign) (s : Scanner) : Scanner := ⟨s.spot, before ++ s.signs⟩

end Scanner

/-- What stands outside of quotes; none if a quote is not closed. -/
def scan (text : String) : Option (List Sign) := (Scanner.run {} text.toList).settled

/-- The depth of brackets after some signs; none if more are closed than were opened. -/
def depthAfter : Nat → List Sign → Option Nat
  | d, [] => some d
  | d, .opening :: ss => depthAfter (d + 1) ss
  | 0, .closing :: _ => none
  | d + 1, .closing :: ss => depthAfter d ss
  | d, .word _ :: ss => depthAfter d ss

/-- The words outside of all brackets. -/
def outerWords : Nat → List Sign → List (List Char)
  | _, [] => []
  | d, .opening :: ss => outerWords (d + 1) ss
  -- Where brackets match, the depth is positive here.
  | d, .closing :: ss => outerWords (d - 1) ss
  | 0, .word cs :: ss => cs :: outerWords 0 ss
  | d + 1, .word _ :: ss => outerWords (d + 1) ss

/-- Whether a word is the keyword between alternatives, in any case. -/
def isOr (word : List Char) : Bool := word.map Char.toUpper == ['O', 'R']

/-- Quotes are closed and brackets match; in a strict text, alternatives occur within brackets
only. -/
def WellBracketed (strict : Bool) (s : String) : Prop :=
  ∃ signs, scan s = some signs ∧ depthAfter 0 signs = some 0 ∧
    (strict = true → ∀ w ∈ outerWords 0 signs, isOr w = false)

instance (strict : Bool) (s : String) : Decidable (WellBracketed strict s) :=
  decidable_of_iff (∃ signs ∈ (scan s).toList, depthAfter 0 signs = some 0 ∧
    (strict = true → ∀ w ∈ outerWords 0 signs, isOr w = false)) (by simp [WellBracketed])

/-! ### Signs -/

theorem depthAfter_append (d : Nat) (ss ts : List Sign) :
    depthAfter d (ss ++ ts) = (depthAfter d ss).bind fun e => depthAfter e ts := by
  induction ss generalizing d with
  | nil => rfl
  | cons s ss ih =>
    cases s with
    | opening => exact ih (d + 1)
    | closing =>
      cases d with
      | zero => rfl
      | succ d => exact ih d
    | word cs => exact ih d

theorem outerWords_append {d e : Nat} {ss : List Sign} (h : depthAfter d ss = some e)
    (ts : List Sign) : outerWords d (ss ++ ts) = outerWords d ss ++ outerWords e ts := by
  induction ss generalizing d with
  | nil =>
    cases h
    rfl
  | cons s ss ih =>
    cases s with
    | opening => exact ih h
    | closing =>
      cases d with
      | zero => cases h
      | succ d => exact ih h
    | word cs =>
      cases d with
      | zero => exact congrArg (cs :: ·) (ih h)
      | succ d => exact ih h

/-- More brackets around signs change nothing between them, -/
theorem depthAfter_add {d e : Nat} {ss : List Sign} (h : depthAfter d ss = some e) (k : Nat) :
    depthAfter (d + k) ss = some (e + k) := by
  induction ss generalizing d with
  | nil =>
    cases h
    rfl
  | cons s ss ih =>
    cases s with
    | opening =>
      have inner := ih h
      rwa [Nat.add_right_comm] at inner
    | closing =>
      cases d with
      | zero => cases h
      | succ d =>
        rw [Nat.add_right_comm]
        exact ih h
    | word cs => exact ih h

/-- and within brackets, no word is outside. -/
theorem outerWords_add_one {d e : Nat} {ss : List Sign} (h : depthAfter d ss = some e) :
    outerWords (d + 1) ss = [] := by
  induction ss generalizing d with
  | nil => rfl
  | cons s ss ih =>
    cases s with
    | opening => exact ih h
    | closing =>
      cases d with
      | zero => cases h
      | succ d => exact ih h
    | word cs => exact ih h

/-! ### Parts of texts -/

namespace Scanner

@[simp] theorem run_nil (s : Scanner) : s.run [] = s := rfl

@[simp] theorem run_cons (s : Scanner) (c : Char) (cs : List Char) :
    s.run (c :: cs) = (s.step c).run cs := rfl

theorem run_append (s : Scanner) (cs ds : List Char) : s.run (cs ++ ds) = (s.run cs).run ds :=
  List.foldl_append

theorem ended_append (before signs : List Sign) (word : List Char) :
    ended (before ++ signs) word = before ++ ended signs word := by
  cases word <;> simp [ended]

theorem separate_append (before signs : List Sign) (c : Char) :
    separate (before ++ signs) c = (separate signs c).after before := by
  unfold separate after
  split <;> [skip; split <;> [skip; split <;> [skip; split]]] <;> simp

theorem step_after (before : List Sign) (s : Scanner) (c : Char) :
    (s.after before).step c = (s.step c).after before := by
  obtain ⟨word | q | -, signs⟩ := s
  · simp only [step, after]
    split
    · rfl
    · rw [ended_append, separate_append]
      rfl
  · simp only [step, after]
    split <;> [rfl; split <;> rfl]
  · rfl

theorem run_after (before : List Sign) (s : Scanner) (cs : List Char) :
    (s.after before).run cs = (s.run cs).after before := by
  induction cs generalizing s with
  | nil => rfl
  | cons c cs ih => rw [run_cons, run_cons, step_after, ih]

theorem settled_after (before : List Sign) (s : Scanner) :
    (s.after before).settled = s.settled.map (before ++ ·) := by
  obtain ⟨word | q | -, signs⟩ := s
  · simp [settled, after, ended_append]
  · rfl
  · rfl

/-- A character that no word contains ends the word before it. -/
theorem step_outside {c : Char} (hc : isNamePart c = false) (signs : List Sign)
    (word : List Char) :
    step ⟨.outside word, signs⟩ c = step ⟨.outside [], ended signs word⟩ c := by
  simp [step, hc, ended]

/-- After a character that no word contains, no word goes on. -/
theorem word_eq_nil_of_step {s : Scanner} {c : Char} (hc : isNamePart c = false)
    {word : List Char} (h : (s.step c).spot = .outside word) : word = [] := by
  obtain ⟨word | q | -, signs⟩ := s
  · simp only [step, hc, Bool.false_eq_true, if_false, separate] at h
    split at h
    · cases h
      rfl
    · split at h
      · cases h
        rfl
      · split at h
        · cases h
        · split at h <;> cases h
          rfl
  · simp only [step] at h
    split at h
    · cases h
      rfl
    · split at h <;> cases h
  · cases h

end Scanner

/-- A text that no word can go on into. -/
def StartsApart (s : String) : Prop := ∀ c ∈ s.toList.head?, isNamePart c = false

/-- A text after which no word goes on. -/
def EndsApart (s : String) : Prop := ∀ c ∈ s.toList.getLast?, isNamePart c = false

instance (s : String) : Decidable (StartsApart s) :=
  decidable_of_iff (s.toList.head?.all (fun c => !isNamePart c) = true)
    (by unfold StartsApart; cases s.toList.head? <;> simp)

instance (s : String) : Decidable (EndsApart s) :=
  decidable_of_iff (s.toList.getLast?.all (fun c => !isNamePart c) = true)
    (by unfold EndsApart; cases s.toList.getLast? <;> simp)

section Parts

variable {s t : String} {ss ts : List Sign}

theorem EndsApart.append (ht : EndsApart t) (some : t ≠ "") : EndsApart (s ++ t) := by
  have chars : t.toList ≠ [] := mt String.toList_eq_nil_iff.mp some
  intro c hc
  rw [String.toList_append, List.getLast?_append_of_ne_nil _ chars] at hc
  exact ht c hc

theorem exists_run_of_scan (hs : scan s = some ss) :
    ∃ word signs, Scanner.run {} s.toList = ⟨.outside word, signs⟩ ∧
      Scanner.ended signs word = ss := by
  unfold scan at hs
  generalize Scanner.run {} s.toList = reached at hs ⊢
  obtain ⟨word | q | -, signs⟩ := reached
  · exact ⟨word, signs, rfl, Option.some.inj hs⟩
  · cases hs
  · cases hs

theorem word_eq_nil_of_endsApart (apart : EndsApart s) {word : List Char} {signs : List Sign}
    (h : Scanner.run {} s.toList = ⟨.outside word, signs⟩) : word = [] := by
  rcases List.eq_nil_or_concat s.toList with chars | ⟨cs, c, chars⟩
  · rw [chars] at h
    cases h
    rfl
  · have hc : isNamePart c = false := apart c (by simp [chars])
    rw [chars, List.concat_eq_append, Scanner.run_append] at h
    exact Scanner.word_eq_nil_of_step hc (congrArg Scanner.spot h)

/-- The signs of two texts are those of each, unless a word goes on from the first to the second. -/
theorem scan_append (hs : scan s = some ss) (ht : scan t = some ts)
    (apart : StartsApart t ∨ EndsApart s) : scan (s ++ t) = some (ss ++ ts) := by
  obtain ⟨word, signs, reached, rfl⟩ := exists_run_of_scan hs
  have ended : (Scanner.run ⟨.outside word, signs⟩ t.toList).settled =
      (Scanner.run (Scanner.after (Scanner.ended signs word) {}) t.toList).settled := by
    have empty : Scanner.after (Scanner.ended signs word) {} =
        ⟨.outside [], Scanner.ended signs word⟩ := by
      simp [Scanner.after]
    rw [empty]
    rcases apart with apart | apart
    · -- The first character of `t` ends the last word of `s`, if there is one.
      cases chars : t.toList with
      | nil => rfl
      | cons c cs =>
        have hc : isNamePart c = false := apart c (by simp [chars])
        rw [Scanner.run_cons, Scanner.step_outside hc, Scanner.run_cons]
    · -- The last word of `s` has ended before.
      rw [word_eq_nil_of_endsApart apart reached]
      rfl
  rw [scan, String.toList_append, Scanner.run_append, reached, ended, Scanner.run_after,
    Scanner.settled_after]
  exact congrArg (Option.map _) ht

end Parts

/-! ### Well bracketed texts -/

section WellBracketed

variable {strict : Bool} {s t separator : String}

theorem WellBracketed.append (hs : WellBracketed strict s) (ht : WellBracketed strict t)
    (apart : StartsApart t ∨ EndsApart s) : WellBracketed strict (s ++ t) := by
  obtain ⟨ss, scanned, depth, quiet⟩ := hs
  obtain ⟨ts, scanned', depth', quiet'⟩ := ht
  refine ⟨ss ++ ts, scan_append scanned scanned' apart, ?_, fun h w hw => ?_⟩
  · rw [depthAfter_append, depth]
    exact depth'
  · rw [outerWords_append depth, List.mem_append] at hw
    exact hw.elim (quiet h w) (quiet' h w)

/-- A fixed text between two others that belongs to neither. -/
structure Separates (strict : Bool) (separator : String) : Prop where
  wellBracketed : WellBracketed strict separator
  nonempty : separator ≠ ""
  startsApart : StartsApart separator
  endsApart : EndsApart separator

instance (strict : Bool) (s : String) : Decidable (Separates strict s) :=
  decidable_of_iff (WellBracketed strict s ∧ s ≠ "" ∧ StartsApart s ∧ EndsApart s)
    ⟨fun h => ⟨h.1, h.2.1, h.2.2.1, h.2.2.2⟩,
      fun h => ⟨h.wellBracketed, h.nonempty, h.startsApart, h.endsApart⟩⟩

theorem Separates.scan_between (separates : Separates strict separator) {ss ms ts : List Sign}
    (hs : scan s = some ss) (hm : scan separator = some ms) (ht : scan t = some ts) :
    scan (s ++ separator ++ t) = some (ss ++ ms ++ ts) :=
  scan_append (scan_append hs hm (.inl separates.startsApart)) ht
    (.inr (separates.endsApart.append separates.nonempty))

theorem WellBracketed.between (hs : WellBracketed strict s) (separates : Separates strict separator)
    (ht : WellBracketed strict t) : WellBracketed strict (s ++ separator ++ t) :=
  (hs.append separates.wellBracketed (.inl separates.startsApart)).append ht
    (.inr (separates.endsApart.append separates.nonempty))

theorem wellBracketed_joinWith (separates : Separates strict separator) {texts : List String}
    (h : ∀ s ∈ texts, WellBracketed strict s) :
    WellBracketed strict (Text.joinWith separator texts) := by
  induction texts with
  | nil => exact ⟨[], rfl, rfl, fun _ => by simp [outerWords]⟩
  | cons s texts ih =>
    obtain ⟨first, rest⟩ := List.forall_mem_cons.mp h
    cases texts with
    | nil => exact first
    | cons t texts =>
      rw [Text.joinWith_cons_cons]
      exact first.between separates (ih rest)

/-- Within brackets, alternatives are allowed. -/
theorem wellBracketed_paren (hs : WellBracketed false s) :
    WellBracketed strict ("(" ++ s ++ ")") := by
  obtain ⟨ss, scanned, depth, -⟩ := hs
  have opened : scan ("(" ++ s) = some (.opening :: ss) :=
    @scan_append _ _ [.opening] ss rfl scanned (.inr (by decide))
  have inner : depthAfter 1 ss = some 1 := depthAfter_add depth 1
  refine ⟨.opening :: ss ++ [.closing], scan_append opened rfl (.inl (by decide)), ?_, fun _ => ?_⟩
  · show depthAfter 1 (ss ++ [.closing]) = some 0
    rw [depthAfter_append, inner]
    rfl
  · show ∀ w ∈ outerWords 1 (ss ++ [.closing]), isOr w = false
    rw [outerWords_append inner, outerWords_add_one depth]
    decide

theorem WellBracketed.weaken (hs : WellBracketed true s) : WellBracketed strict s := by
  obtain ⟨ss, scanned, depth, quiet⟩ := hs
  exact ⟨ss, scanned, depth, fun _ => quiet rfl⟩

theorem Separates.weaken (h : Separates true separator) : Separates strict separator :=
  ⟨h.wellBracketed.weaken, h.nonempty, h.startsApart, h.endsApart⟩

end WellBracketed

/-! ### Quoted tokens and numerals -/

/-- Doubled backticks end an identifier and begin it again. -/
theorem run_inside_doubled (cs : List Char) (signs : List Sign) :
    Scanner.run ⟨.inside .name, signs⟩ (doubled backtick cs) = ⟨.inside .name, signs⟩ := by
  induction cs with
  | nil => rfl
  | cons c cs ih =>
    by_cases hc : c = backtick
    · subst hc
      rw [doubled_cons_self]
      exact ih
    · have stays : Scanner.step ⟨.inside .name, signs⟩ c = ⟨.inside .name, signs⟩ := by
        simp [Scanner.step, Quotation.mark, hc]
      rw [doubled_cons_of_ne hc, Scanner.run_cons, stays, ih]

/-- Escaped characters stay in the text. -/
theorem run_inside_escapeChars (cs : List Char) (signs : List Sign) :
    Scanner.run ⟨.inside .text, signs⟩ (escapeChars cs) = ⟨.inside .text, signs⟩ := by
  induction cs with
  | nil => rfl
  | cons c cs ih =>
    rw [escapeChars_cons, Scanner.run_append]
    have stays : Scanner.run ⟨.inside .text, signs⟩
        (if c = apostrophe ∨ c = backslash then [c, c] else [c]) = ⟨.inside .text, signs⟩ := by
      by_cases hq : c = apostrophe
      · subst hq
        rfl
      · by_cases hb : c = backslash
        · subst hb
          rfl
        · simp [Scanner.step, Quotation.mark, hq, hb]
    rw [stays, ih]

theorem scan_quotation {q : Quotation} {ds : List Char}
    (inside : ∀ signs, Scanner.run ⟨.inside q, signs⟩ ds = ⟨.inside q, signs⟩) :
    scan (String.ofList (q.mark :: (ds ++ [q.mark]))) = some [] := by
  have opens : Scanner.step {} q.mark = ⟨.inside q, []⟩ := by cases q <;> rfl
  have closes : Scanner.step ⟨.inside q, []⟩ q.mark = ⟨.outside [], []⟩ := by cases q <;> rfl
  rw [scan, String.toList_ofList, Scanner.run_cons, opens, Scanner.run_append, inside,
    Scanner.run_cons, closes]
  rfl

theorem scan_quote (s : String) : scan (quote s) = some [] := by
  unfold quote
  cases chars : s.toList with
  | nil => rfl
  | cons c cs => exact @scan_quotation .name _ (run_inside_doubled (c :: cs))

theorem scan_text (s : String) : scan (Literal.text s).render = some [] := by
  rw [render_text]
  exact @scan_quotation .text _ (run_inside_escapeChars s.toList)

/-- Signs that are words made of the characters of numerals. -/
def AreNumerals (signs : List Sign) : Prop :=
  ∀ s ∈ signs, ∃ word, s = .word word ∧ ∀ c ∈ word, isNumeralPart c = true

theorem AreNumerals.ended {signs : List Sign} (h : AreNumerals signs) {word : List Char}
    (hw : ∀ c ∈ word, isNumeralPart c = true) : AreNumerals (Scanner.ended signs word) := by
  cases word with
  | nil => exact h
  | cons c cs =>
    intro s hs
    rcases List.mem_append.mp hs with hs | hs
    · exact h s hs
    · exact ⟨c :: cs, List.mem_singleton.mp hs, hw⟩

/-- Outside of quotes, the characters of numerals make words and nothing else. -/
theorem run_numeral {cs : List Char} (hcs : ∀ c ∈ cs, isNumeralPart c = true) {word : List Char}
    (hw : ∀ c ∈ word, isNumeralPart c = true) {signs : List Sign} (hs : AreNumerals signs) :
    ∃ signs', (Scanner.run ⟨.outside word, signs⟩ cs).settled = some signs' ∧
      AreNumerals signs' := by
  induction cs generalizing word signs with
  | nil => exact ⟨_, rfl, hs.ended hw⟩
  | cons c cs ih =>
    obtain ⟨hc, hcs⟩ := List.forall_mem_cons.mp hcs
    by_cases part : isNamePart c = true
    · have step : Scanner.step ⟨.outside word, signs⟩ c = ⟨.outside (word ++ [c]), signs⟩ := by
        simp [Scanner.step, part]
      rw [Scanner.run_cons, step]
      refine ih hcs (fun d hd => ?_) hs
      rcases List.mem_append.mp hd with hd | hd
      · exact hw d hd
      · rwa [List.mem_singleton.mp hd]
    · have ne {d : Char} (hd : isNumeralPart d = false) : c ≠ d := by
        rintro rfl
        rw [hc] at hd
        cases hd
      have step : Scanner.step ⟨.outside word, signs⟩ c =
          ⟨.outside [], Scanner.ended signs word⟩ := by
        simp [Scanner.step, part, Scanner.separate, @ne '(' (by decide), @ne ')' (by decide),
          @ne backtick (by decide), @ne apostrophe (by decide)]
      rw [Scanner.run_cons, step]
      exact ih hcs (by simp) (hs.ended hw)

theorem toUpper_ne_of_isNumeralPart {c : Char} (h : isNumeralPart c = true) : c.toUpper ≠ 'O' := by
  simp only [isNumeralPart, Bool.or_eq_true, List.contains_iff_mem] at h
  rcases h with digit | listed
  · intro upper
    have low : c.val.toNat ≤ 57 := by
      simp only [Char.isDigit, Bool.and_eq_true, decide_eq_true_eq] at digit
      exact UInt32.le_iff_toNat_le.mp digit.2
    have unchanged : c.toUpper = c := by
      refine dif_neg fun lower => ?_
      have high : 97 ≤ c.val.toNat := UInt32.le_iff_toNat_le.mp lower.1
      omega
    rw [← unchanged, upper] at digit
    cases digit
  · intro upper
    have none : ['+', '-', '.', 'e', 'E', 'a', 'f', 'i', 'n', 's', 't', 'y', 'I', 'N'].all
        (fun d => d.toUpper != 'O') = true := by decide
    simpa [upper] using List.all_eq_true.mp none c listed

theorem isOr_eq_false_of_numeral {word : List Char} (h : ∀ c ∈ word, isNumeralPart c = true) :
    isOr word = false := by
  cases word with
  | nil => rfl
  | cons c cs =>
    have := toUpper_ne_of_isNumeralPart (h c (by simp))
    simp [isOr, this]

theorem AreNumerals.depthAfter_eq {signs : List Sign} (h : AreNumerals signs) (d : Nat) :
    depthAfter d signs = some d := by
  induction signs with
  | nil => rfl
  | cons s signs ih =>
    obtain ⟨⟨word, rfl, -⟩, rest⟩ := List.forall_mem_cons.mp h
    exact ih rest

theorem AreNumerals.isOr_eq_false {signs : List Sign} (h : AreNumerals signs) :
    ∀ w ∈ outerWords 0 signs, isOr w = false := by
  induction signs with
  | nil => exact List.forall_mem_nil _
  | cons s signs ih =>
    obtain ⟨⟨word, rfl, hw⟩, rest⟩ := List.forall_mem_cons.mp h
    exact List.forall_mem_cons.mpr ⟨isOr_eq_false_of_numeral hw, ih rest⟩

theorem wellBracketed_of_scan_nil {strict : Bool} {s : String} (h : scan s = some []) :
    WellBracketed strict s :=
  ⟨[], h, rfl, fun _ => List.forall_mem_nil _⟩

theorem wellBracketed_numeral {strict : Bool} {s : String} (h : Numeric s) :
    WellBracketed strict s := by
  obtain ⟨signs, scanned, numerals⟩ :=
    @run_numeral s.toList h [] (List.forall_mem_nil _) [] (List.forall_mem_nil _)
  exact ⟨signs, scanned, numerals.depthAfter_eq 0, fun _ => numerals.isOr_eq_false⟩

end Relational.Sql

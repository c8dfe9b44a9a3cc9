import Mathlib.Data.List.Forall2
import Relational.Sql.Render

/-!
# Tokens of conditions

The text of a comparison is read character by character, with the lexical rules of the server: an
identifier stands between backticks, and a backtick inside is written twice; text stands between
single quotes, a quote inside is written twice, and a backslash starts an escape sequence; keywords
and numerals are runs of word characters.

`Lexes` and `Closes` say which tokens a piece of text gives, whatever was read before, so that the
tokens of a long text are found piece by piece.
-/

namespace Relational.Sql

/-- A token: an identifier, text, a keyword or numeral, or a sign. -/
inductive Token where
  | name (s : String)
  | text (s : String)
  | word (s : String)
  | opening
  | closing
  | equals
  deriving DecidableEq, Repr

/-- The characters of keywords and numerals. -/
def isWordPart (c : Char) : Bool := c.isAlphanum || c == '+' || c == '-' || c == '.'

/-- What a backslash together with the character after it stands for. -/
def unescape (c : Char) : List Char :=
  if c = '0' then ['\x00'] else
  if c = 'b' then ['\x08'] else
  if c = 'n' then ['\x0a'] else
  if c = 'r' then ['\x0d'] else
  if c = 't' then ['\x09'] else
  if c = 'Z' then ['\x1a'] else
  if c = '%' ∨ c = '_' then [backslash, c] else [c]

/-- The two kinds of quoted tokens. -/
inductive Quotation where
  | name
  | text
  deriving DecidableEq, Repr

/-- The mark around a quoted token. -/
def Quotation.mark : Quotation → Char
  | .name => backtick
  | .text => apostrophe

/-- The token with the given characters between its marks. -/
def Quotation.token : Quotation → List Char → Token
  | .name, cs => .name (String.ofList cs)
  | .text, cs => .text (String.ofList cs)

/-- Where a lexer stands. -/
inductive Place where
  /-- Between tokens. -/
  | idle
  /-- In a word. -/
  | word (cs : List Char)
  /-- Between two marks. -/
  | quoted (q : Quotation) (cs : List Char)
  /-- After a backslash in text. -/
  | escaped (cs : List Char)
  /-- After a mark that ends the token, unless another one follows. -/
  | ended (q : Quotation) (cs : List Char)

/-- A lexer: its place, and the tokens that it has found. -/
structure Lexer where
  place : Place := .idle
  tokens : List Token := []

namespace Lexer

/-- Read a character between tokens. -/
def start (tokens : List Token) (c : Char) : Option Lexer :=
  if c = ' ' then some ⟨.idle, tokens⟩
  else if c = '(' then some ⟨.idle, tokens ++ [.opening]⟩
  else if c = ')' then some ⟨.idle, tokens ++ [.closing]⟩
  else if c = '=' then some ⟨.idle, tokens ++ [.equals]⟩
  else if c = backtick then some ⟨.quoted .name [], tokens⟩
  else if c = apostrophe then some ⟨.quoted .text [], tokens⟩
  else if isWordPart c then some ⟨.word [c], tokens⟩
  else none

/-- Read a character. Only text has escape sequences. -/
def step (l : Lexer) (c : Char) : Option Lexer :=
  match l.place with
  | .idle => start l.tokens c
  | .word cs =>
    if isWordPart c then some ⟨.word (cs ++ [c]), l.tokens⟩
    else start (l.tokens ++ [.word (String.ofList cs)]) c
  | .quoted q cs =>
    if c = q.mark then some ⟨.ended q cs, l.tokens⟩
    else if c = backslash ∧ q = .text then some ⟨.escaped cs, l.tokens⟩
    else some ⟨.quoted q (cs ++ [c]), l.tokens⟩
  | .escaped cs => some ⟨.quoted .text (cs ++ unescape c), l.tokens⟩
  | .ended q cs =>
    if c = q.mark then some ⟨.quoted q (cs ++ [c]), l.tokens⟩
    else start (l.tokens ++ [q.token cs]) c

/-- Read characters from left to right. -/
def run (l : Lexer) (cs : List Char) : Option Lexer := cs.foldlM step l

/-- All tokens, if the last one is complete. -/
def settled (l : Lexer) : Option (List Token) :=
  match l.place with
  | .idle => some l.tokens
  | .word cs => some (l.tokens ++ [.word (String.ofList cs)])
  | .ended q cs => some (l.tokens ++ [q.token cs])
  | .quoted _ _ | .escaped _ => none

@[simp] theorem run_nil (l : Lexer) : l.run [] = some l := rfl

@[simp] theorem run_cons (l : Lexer) (c : Char) (cs : List Char) :
    l.run (c :: cs) = (l.step c).bind fun m => m.run cs := rfl

theorem run_append (l : Lexer) (cs ds : List Char) :
    l.run (cs ++ ds) = (l.run cs).bind fun m => m.run ds := by
  simp only [run, List.foldlM_append]
  rfl

end Lexer

/-- The tokens of a text. -/
def lex (s : String) : Option (List Token) := (Lexer.run {} s.toList).bind Lexer.settled

/-! ### Pieces of text -/

/-- A piece of text gives the tokens, whatever was read before. -/
def Lexes (s : String) (ts : List Token) : Prop :=
  ∀ before, ∃ l, Lexer.run ⟨.idle, before⟩ s.toList = some l ∧ l.settled = some (before ++ ts)

/-- A piece of text gives the tokens, and no token goes on after it. -/
def Closes (s : String) (ts : List Token) : Prop :=
  ∀ before, Lexer.run ⟨.idle, before⟩ s.toList = some ⟨.idle, before ++ ts⟩

/-- Characters that end words and quoted tokens. -/
def isBreak (c : Char) : Bool := c == ' ' || c == ')' || c == '='

theorem lex_eq_of_lexes {s : String} {ts : List Token} (h : Lexes s ts) : lex s = some ts := by
  obtain ⟨l, hl, hs⟩ := h []
  rw [lex, hl]
  exact hs

/-- After complete tokens, a break is read as if it stood between tokens. -/
theorem step_of_isBreak {l : Lexer} {ts : List Token} {c : Char} (hs : l.settled = some ts)
    (hc : isBreak c = true) : l.step c = Lexer.start ts c := by
  have other : isWordPart c = false ∧ ∀ q : Quotation, c ≠ q.mark := by
    simp only [isBreak, Bool.or_eq_true, beq_iff_eq] at hc
    rcases hc with (rfl | rfl) | rfl <;> refine ⟨by decide, fun q => ?_⟩ <;> cases q <;> decide
  rcases l with ⟨_ | cs | ⟨q, cs⟩ | cs | ⟨q, cs⟩, tokens⟩ <;> cases hs
  · rfl
  · exact if_neg (by simp [other.1])
  · exact if_neg (other.2 q)

theorem Closes.lexes {s : String} {ts : List Token} (h : Closes s ts) : Lexes s ts :=
  fun before => ⟨_, h before, rfl⟩

theorem Closes.append {s t : String} {as bs : List Token} (hs : Closes s as) (ht : Lexes t bs) :
    Lexes (s ++ t) (as ++ bs) := by
  intro before
  obtain ⟨l, hl, settled⟩ := ht (before ++ as)
  refine ⟨l, ?_, by rw [settled, List.append_assoc]⟩
  rw [String.toList_append, Lexer.run_append, hs before]
  exact hl

/-- Text that begins with a break can follow any complete tokens. -/
theorem Lexes.append {s t : String} {as bs : List Token} {c : Char} {cs : List Char}
    (hs : Lexes s as) (ht : Closes t bs) (chars : t.toList = c :: cs) (hc : isBreak c = true) :
    Closes (s ++ t) (as ++ bs) := by
  intro before
  obtain ⟨l, hl, settled⟩ := hs before
  have rest := ht (before ++ as)
  rw [chars, Lexer.run_cons] at rest
  rw [String.toList_append, Lexer.run_append, hl, chars, Option.bind_some, Lexer.run_cons,
    step_of_isBreak settled hc, ← List.append_assoc]
  exact rest

/-! ### Tokens -/

theorem escapeChars_cons (c : Char) (cs : List Char) :
    escapeChars (c :: cs) =
      (if c = apostrophe ∨ c = backslash then [c, c] else [c]) ++ escapeChars cs := by
  have distinct : apostrophe ≠ backslash := by decide
  by_cases hq : c = apostrophe
  · subst hq
    simp [escapeChars, doubled, distinct]
  · by_cases hb : c = backslash
    · subst hb
      simp [escapeChars, doubled, hq]
    · simp [escapeChars, doubled, hq, hb]

/-- Inside text, escaped characters are read as they were before. -/
theorem run_escapeChars (cs read : List Char) (tokens : List Token) :
    Lexer.run ⟨.quoted .text read, tokens⟩ (escapeChars cs) =
      some ⟨.quoted .text (read ++ cs), tokens⟩ := by
  induction cs generalizing read with
  | nil => simp [escapeChars]
  | cons c cs ih =>
    rw [escapeChars_cons]
    by_cases hq : c = apostrophe
    · -- The first quote seems to end the text, the second goes on with it.
      simp [hq, Lexer.step, Quotation.mark, ih]
    · by_cases hb : c = backslash
      · subst hb
        have self : unescape backslash = [backslash] := by decide
        simp [hq, Lexer.step, Quotation.mark, self, ih]
      · simp [hq, hb, Lexer.step, Quotation.mark, ih]

/-- Inside an identifier, doubled backticks are read as one. -/
theorem run_doubled (cs read : List Char) (tokens : List Token) :
    Lexer.run ⟨.quoted .name read, tokens⟩ (doubled backtick cs) =
      some ⟨.quoted .name (read ++ cs), tokens⟩ := by
  induction cs generalizing read with
  | nil => simp
  | cons c cs ih =>
    by_cases hc : c = backtick
    · simp [doubled, hc, Lexer.step, Quotation.mark, ih]
    · simp [doubled, hc, Lexer.step, Quotation.mark, ih]

/-- Text between two marks, with its inside written such that it is read back, is one token. -/
theorem lexes_quotation (q : Quotation) {cs ds : List Char}
    (inside : ∀ tokens, Lexer.run ⟨.quoted q [], tokens⟩ ds = some ⟨.quoted q cs, tokens⟩) :
    Lexes (String.ofList (q.mark :: (ds ++ [q.mark]))) [q.token cs] := by
  intro before
  have opens : Lexer.start before q.mark = some ⟨.quoted q [], before⟩ := by cases q <;> rfl
  refine ⟨⟨.ended q cs, before⟩, ?_, rfl⟩
  rw [String.toList_ofList, Lexer.run_cons, Lexer.step, opens, Option.bind_some, Lexer.run_append,
    inside]
  simp [Lexer.step]

theorem lexes_quote {s : String} (some : s ≠ "") : Lexes (quote s) [.name s] := by
  obtain ⟨c, cs, chars⟩ := List.exists_cons_of_ne_nil (mt String.toList_eq_nil_iff.mp some)
  have read := lexes_quotation .name fun tokens => run_doubled s.toList [] tokens
  rw [List.nil_append, Quotation.token, String.ofList_toList] at read
  rw [quote, chars]
  rwa [chars] at read

theorem render_text (s : String) :
    (Literal.text s).render =
      String.ofList (apostrophe :: (escapeChars s.toList ++ [apostrophe])) := by
  apply String.toList_injective
  simp [Literal.render, escape, apostrophe]

theorem lexes_text (s : String) : Lexes (Literal.text s).render [.text s] := by
  have read := lexes_quotation .text fun tokens => run_escapeChars s.toList [] tokens
  rw [List.nil_append, Quotation.token, String.ofList_toList] at read
  rw [render_text]
  exact read

/-- Word characters make one word. -/
theorem run_word (cs read : List Char) (tokens : List Token) (hcs : ∀ c ∈ cs, isWordPart c = true) :
    Lexer.run ⟨.word read, tokens⟩ cs = some ⟨.word (read ++ cs), tokens⟩ := by
  induction cs generalizing read with
  | nil => simp
  | cons c cs ih =>
    obtain ⟨hc, hcs⟩ := List.forall_mem_cons.mp hcs
    simp [Lexer.step, hc, ih _ hcs]

theorem lexes_word {s : String} (some : s ≠ "") (hs : s.toList.all isWordPart = true) :
    Lexes s [.word s] := by
  intro before
  obtain ⟨c, cs, chars⟩ := List.exists_cons_of_ne_nil (mt String.toList_eq_nil_iff.mp some)
  rw [chars, List.all_eq_true] at hs
  obtain ⟨hc, hcs⟩ := List.forall_mem_cons.mp hs
  have ne {d : Char} (hd : isWordPart d = false) : c ≠ d := by
    rintro rfl
    rw [hc] at hd
    cases hd
  have first : Lexer.start before c = Option.some ⟨.word [c], before⟩ := by
    simp [Lexer.start, ne (d := ' ') (by decide), ne (d := '(') (by decide),
      ne (d := ')') (by decide), ne (d := '=') (by decide), ne (d := backtick) (by decide),
      ne (d := apostrophe) (by decide), hc]
  refine ⟨⟨.word s.toList, before⟩, ?_, ?_⟩
  · rw [chars, Lexer.run_cons, Lexer.step, first, Option.bind_some, run_word cs [c] before hcs]
    rfl
  · simp [Lexer.settled]

/-! ### Lists of texts -/

/-- Texts with a separator between them give their tokens with those of the separator between. -/
theorem lexes_joinWith {separator : String} {ts : List Token} {c : Char} {cs : List Char}
    (hs : Closes separator ts) (chars : separator.toList = c :: cs) (hc : isBreak c = true)
    {texts : List String} {parts : List (List Token)} (some : texts ≠ [])
    (h : List.Forall₂ Lexes texts parts) :
    Lexes (Text.joinWith separator texts) (ts.intercalate parts) := by
  induction h with
  | nil => exact absurd rfl some
  | @cons s p texts parts first rest ih =>
    cases rest with
    | nil => simpa using first
    | @cons s' p' texts parts second rest =>
      rw [Text.joinWith_cons_cons, List.intercalate_cons_cons]
      exact (first.append hs chars hc).append (ih (by simp))

theorem closes_and : Closes " AND " [.word "AND"] := fun _ => rfl

theorem closes_or : Closes " OR " [.word "OR"] := fun _ => rfl

theorem closes_opening : Closes "(" [.opening] := fun _ => rfl

theorem closes_closing : Closes ")" [.closing] := fun _ => rfl

theorem closes_equals : Closes "=" [.equals] := fun _ => rfl

theorem renderAll_eq_map (cs : List Cond) : renderAll cs = cs.map Cond.render := by
  induction cs with
  | nil => rfl
  | cons c cs ih => rw [renderAll, ih, List.map_cons]

end Relational.Sql

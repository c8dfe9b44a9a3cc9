import Relational.Proofs.Header
import Relational.Proofs.Lexical
import Relational.Proofs.Numerals
import Relational.Proofs.Tuples

/-!
# Reading tuple conditions back

The condition of a list of records is read without knowing the header: its tokens are split at `OR`
outside of brackets, then at `AND`, and every part is a comparison of a field. This gives back the
records, field by field and in order, whatever characters the names and the texts contain.
-/

namespace Relational

open Sql

/-- What a field is compared with. -/
inductive Content where
  | null
  | text (s : String)
  | number (digits : String)
  deriving DecidableEq, Repr

/-! ### Reading -/

/-- The number of open brackets after a token. -/
def Sql.Token.depth (depth : Nat) : Token → Nat
  | .opening => depth + 1
  | .closing => depth - 1
  | _ => depth

/-- Split tokens at a separator that stands outside of all brackets. -/
def splitTop (separator : Token) (depth : Nat) : List Token → List (List Token)
  | [] => [[]]
  | t :: ts =>
    if depth = 0 ∧ t = separator then [] :: splitTop separator 0 ts
    else (splitTop separator (t.depth depth) ts).modifyHead (t :: ·)

/-- Leave out the brackets around tokens. -/
def unwrapped : List Token → List Token
  | .opening :: ts => if ts.getLast? = some .closing then ts.dropLast else .opening :: ts
  | ts => ts

/-- Read the comparison of a field. -/
def readComparison : List Token → Option (String × Content)
  | [.name field, .equals, .text s] => some (field, .text s)
  | [.name field, .equals, .word digits] => some (field, .number digits)
  | [.name field, .word "IS", .word "NULL"] => some (field, .null)
  | _ => none

/-- Read the comparisons of a record. -/
def readComparisons (ts : List Token) : Option (List (String × Content)) :=
  if ts = [.word "TRUE"] then some [] else (splitTop (.word "AND") 0 ts).mapM readComparison

/-- Read the condition of a list of records. -/
def readRecords (s : String) : Option (List (List (String × Content))) := do
  (splitTop (.word "OR") 0 (← lex s)).mapM fun ts => readComparisons (unwrapped ts)

/-! ### Splitting tokens -/

theorem splitTop_separator {sep : Token} (ts : List Token) :
    splitTop sep 0 (sep :: ts) = [] :: splitTop sep 0 ts := by
  simp [splitTop]

/-- Tokens stay together when they are split. -/
def Stays (sep : Token) (ts : List Token) : Prop :=
  ∀ rest, splitTop sep 0 (ts ++ rest) = (splitTop sep 0 rest).modifyHead (ts ++ ·)

theorem splitTop_intercalate {sep : Token} {parts : List (List Token)} (some : parts ≠ [])
    (stays : ∀ p ∈ parts, Stays sep p) : splitTop sep 0 ([sep].intercalate parts) = parts := by
  match parts, some, stays with
  | [p], _, stays =>
    have single := stays p (by simp) []
    simpa [splitTop] using single
  | p :: q :: parts, _, stays =>
    have rest : splitTop sep 0 ([sep].intercalate (q :: parts)) = q :: parts :=
      splitTop_intercalate (by simp) fun p hp => stays p (List.mem_cons_of_mem _ hp)
    rw [List.intercalate_cons_cons, List.append_assoc, stays p (by simp), List.singleton_append,
      splitTop_separator, rest]
    simp

/-- A token that neither opens nor closes a bracket. -/
def Sql.Token.IsInner (t : Token) : Prop := t ≠ .opening ∧ t ≠ .closing

theorem depth_of_isInner {t : Token} (h : t.IsInner) (depth : Nat) : t.depth depth = depth := by
  cases t with
  | opening => exact absurd rfl h.1
  | closing => exact absurd rfl h.2
  | name | text | word | equals => rfl

theorem stays_of_isInner {sep : Token} {ts : List Token} (inner : ∀ t ∈ ts, t.IsInner)
    (other : ∀ t ∈ ts, t ≠ sep) : Stays sep ts := by
  intro rest
  induction ts with
  | nil =>
    rw [List.nil_append]
    cases splitTop sep 0 rest <;> rfl
  | cons t ts ih =>
    obtain ⟨ht, inner⟩ := List.forall_mem_cons.mp inner
    obtain ⟨hne, other⟩ := List.forall_mem_cons.mp other
    rw [List.cons_append, splitTop, if_neg (fun h => hne h.2), depth_of_isInner ht, ih inner other]
    simp [Function.comp_def]

/-- Inside a bracket, separators do not count. -/
theorem splitTop_inside {sep : Token} {ts : List Token} (inner : ∀ t ∈ ts, t.IsInner)
    (rest : List Token) :
    splitTop sep 1 (ts ++ .closing :: rest) =
      (splitTop sep 0 rest).modifyHead (ts ++ [.closing] ++ ·) := by
  induction ts with
  | nil => simp [splitTop, Token.depth]
  | cons t ts ih =>
    obtain ⟨ht, inner⟩ := List.forall_mem_cons.mp inner
    rw [List.cons_append, splitTop, if_neg (by simp), depth_of_isInner ht, ih inner]
    simp [Function.comp_def]

theorem stays_bracketed {sep : Token} (hs : sep ≠ .opening) {ts : List Token}
    (inner : ∀ t ∈ ts, t.IsInner) : Stays sep (.opening :: (ts ++ [.closing])) := by
  intro rest
  rw [List.cons_append, List.append_assoc, List.singleton_append, splitTop,
    if_neg (fun h => hs h.2.symm), Token.depth, splitTop_inside inner]
  simp [Function.comp_def]

/-! ### Tokens of records -/

/-- The tokens of the comparison of a field. -/
def comparisonTokens : String × Content → List Token
  | (field, .null) => [.name field, .word "IS", .word "NULL"]
  | (field, .text s) => [.name field, .equals, .text s]
  | (field, .number digits) => [.name field, .equals, .word digits]

/-- The tokens of the comparisons of a record. -/
def recordTokens (row : List (String × Content)) : List Token :=
  if row = [] then [.word "TRUE"] else [Token.word "AND"].intercalate (row.map comparisonTokens)

/-- The tokens of a record among several. -/
def bracketedTokens (row : List (String × Content)) : List Token :=
  .opening :: (recordTokens row ++ [.closing])

/-- Numbers are written as numerals. -/
def Content.IsWritten : Content → Prop
  | .number digits => IsNumeral digits
  | .null | .text _ => True

/-- A token that can stand in a comparison. -/
structure Sql.Token.InComparison (t : Token) : Prop where
  inner : t.IsInner
  ne_and : t ≠ .word "AND"
  ne_or : t ≠ .word "OR"

theorem inComparison_of_mem {e : String × Content} (he : e.2.IsWritten) :
    ∀ t ∈ comparisonTokens e, t.InComparison := by
  obtain ⟨field, _ | s | digits⟩ := e <;> intro t ht <;>
    simp only [comparisonTokens, List.mem_cons, List.not_mem_nil, or_false] at ht <;>
    rcases ht with rfl | rfl | rfl <;> refine ⟨⟨by simp, by simp⟩, ?_, ?_⟩ <;> try simp
  -- The letters of both keywords are missing in numerals.
  · rintro rfl
    exact absurd he.numeric (by decide)
  · rintro rfl
    exact absurd he.numeric (by decide)

theorem readComparison_comparisonTokens (e : String × Content) :
    readComparison (comparisonTokens e) = some e := by
  obtain ⟨field, _ | s | digits⟩ := e <;> rfl

theorem mapM_map_eq_some {α β : Type} {f : β → Option α} {g : α → β} {as : List α}
    (h : ∀ a ∈ as, f (g a) = some a) : (as.map g).mapM f = some as := by
  induction as with
  | nil => rfl
  | cons a as ih =>
    obtain ⟨ha, has⟩ := List.forall_mem_cons.mp h
    rw [List.map_cons, List.mapM_cons, ha, ih has]
    rfl

theorem mem_intercalate {α : Type} {sep : α} {parts : List (List α)} {a : α}
    (h : a ∈ [sep].intercalate parts) : a = sep ∨ ∃ p ∈ parts, a ∈ p := by
  match parts with
  | [] => simp at h
  | [p] => exact .inr ⟨p, by simp, by simpa using h⟩
  | p :: q :: parts =>
    rw [List.intercalate_cons_cons, List.append_assoc, List.mem_append, List.mem_append,
      List.mem_singleton] at h
    rcases h with h | h | h
    · exact .inr ⟨p, by simp, h⟩
    · exact .inl h
    · rcases mem_intercalate h with h | ⟨r, hr, h⟩
      · exact .inl h
      · exact .inr ⟨r, List.mem_cons_of_mem _ hr, h⟩

section Rows

variable {row : List (String × Content)}

theorem isInner_of_mem_recordTokens (hr : ∀ e ∈ row, e.2.IsWritten) :
    ∀ t ∈ recordTokens row, t.IsInner ∧ t ≠ .word "OR" := by
  intro t ht
  unfold recordTokens at ht
  split at ht
  · rw [List.mem_singleton] at ht
    subst ht
    exact ⟨⟨by simp, by simp⟩, by simp⟩
  · rcases mem_intercalate ht with rfl | ⟨p, hp, ht⟩
    · exact ⟨⟨by simp, by simp⟩, by simp⟩
    · obtain ⟨e, he, rfl⟩ := List.mem_map.mp hp
      have inside := inComparison_of_mem (hr e he) t ht
      exact ⟨inside.inner, inside.ne_or⟩

/-- The tokens of a record begin with the name of a field, unless there are no fields. -/
theorem recordTokens_cons (e : String × Content) (row : List (String × Content)) :
    ∃ ts, recordTokens (e :: row) = .name e.1 :: ts := by
  rw [recordTokens, if_neg (by simp), List.map_cons]
  have first : ∃ ts, comparisonTokens e = .name e.1 :: ts := by
    obtain ⟨field, _ | s | digits⟩ := e <;> exact ⟨_, rfl⟩
  obtain ⟨ts, first⟩ := first
  rw [first]
  cases row with
  | nil => exact ⟨ts, by simp⟩
  | cons f row =>
    refine ⟨ts ++ ([.word "AND"] ++ [Token.word "AND"].intercalate
      ((f :: row).map comparisonTokens)), ?_⟩
    rw [List.map_cons, List.intercalate_cons_cons]
    simp

theorem readComparisons_recordTokens (hr : ∀ e ∈ row, e.2.IsWritten) :
    readComparisons (recordTokens row) = some row := by
  cases row with
  | nil => rfl
  | cons e row =>
    obtain ⟨ts, first⟩ := recordTokens_cons e row
    have other : recordTokens (e :: row) ≠ [.word "TRUE"] := by
      rw [first]
      simp
    rw [readComparisons, if_neg other, recordTokens, if_neg (by simp),
      splitTop_intercalate (by simp)]
    · exact mapM_map_eq_some fun f _ => readComparison_comparisonTokens f
    · intro p hp
      obtain ⟨f, hf, rfl⟩ := List.mem_map.mp hp
      have inside := inComparison_of_mem (hr f hf)
      exact stays_of_isInner (fun t ht => (inside t ht).inner) fun t ht => (inside t ht).ne_and

theorem unwrapped_recordTokens (row : List (String × Content)) :
    unwrapped (recordTokens row) = recordTokens row := by
  cases row with
  | nil => rfl
  | cons e row =>
    obtain ⟨ts, first⟩ := recordTokens_cons e row
    rw [first]
    rfl

theorem unwrapped_bracketedTokens (row : List (String × Content)) :
    unwrapped (bracketedTokens row) = recordTokens row := by
  simp [bracketedTokens, unwrapped]

end Rows

/-- If the tokens of each record stay together, reading gives back the records. -/
theorem readRecords_of_lexes {s : String} {rows : List (List (String × Content))}
    {tokens : List (String × Content) → List Token} (some : rows ≠ [])
    (hr : ∀ row ∈ rows, ∀ e ∈ row, e.2.IsWritten)
    (stays : ∀ row ∈ rows, Stays (.word "OR") (tokens row))
    (unwraps : ∀ row, unwrapped (tokens row) = recordTokens row)
    (hs : Lexes s ([Token.word "OR"].intercalate (rows.map tokens))) :
    readRecords s = Option.some rows := by
  rw [readRecords, lex_eq_of_lexes hs, Option.bind_eq_bind, Option.bind_some,
    splitTop_intercalate (by simpa using some) (List.forall_mem_map.mpr stays)]
  refine mapM_map_eq_some fun row hrow => ?_
  rw [unwraps, readComparisons_recordTokens (hr row hrow)]

/-! ### Texts of records -/

/-- The content that an attribute is compared with: nothing for a missing value, the text itself or
the standard form of a calendar value for a string, and the numeral for any other type. -/
def Attribute.content? (a : Attribute) : Value → Option Content
  | .null => some .null
  | v => if a.type = .string then (v.iso?.or v.text?).map .text else v.numberText?.map .number

/-- The field of an entry and what it is compared with. -/
def Header.content? (h : Header) : Label × Value → Option (String × Content)
  | (.name n, v) => do return (n, ← (← h.find? n).content? v)
  | (.position _, _) => none

/-- The fields of a record and what they are compared with, in order. -/
def Header.contents? (h : Header) (r : Record) : Option (List (String × Content)) :=
  r.entries.mapM h.content?

/-- Numerals are words. -/
theorem lexes_numeral {s : String} (h : IsNumeral s) : Lexes s [.word s] := by
  refine lexes_word h.nonempty (List.all_eq_true.mpr fun c hc => ?_)
  have part := h.numeric c hc
  rw [isNumeralPart, Bool.or_eq_true, List.contains_iff_mem] at part
  rcases part with digit | sign
  · simp [isWordPart, Char.isAlphanum, digit]
  · have signs : ['+', '-', '.', 'e', 'E', 'a', 'f', 'i', 'n', 's', 't', 'y', 'I', 'N'].all
        isWordPart = true := by decide
    exact List.all_eq_true.mp signs c sign

theorem refuseLiteral_ne_ok {α : Type} {a : Attribute} {expected : String} {v : Value} {x : α} :
    (v.refuseLiteral a expected : Except Error α) ≠ .ok x := by
  intro h
  obtain ⟨_, -, h⟩ := bind_eq_ok.mp h
  cases h

/-- What is compared with an attribute that is neither a blob nor a string is written as a
number. -/
theorem numberText?_of_literal {a : Attribute} {v : Value} {l : Literal} (blob : a.type ≠ .blob)
    (string : a.type ≠ .string) (hl : v.literal a = .ok l) :
    ∃ digits, l = .number digits ∧ v.numberText? = some digits := by
  unfold Value.literal at hl
  split at hl
  · exact absurd ‹_› blob
  · exact absurd ‹_› string
  · split at hl
    case h_8 num den =>
      unfold doubleText at hl
      split at hl
      · rename_i x hx
        cases hl
        exact ⟨floatText x, rfl, by simp [Value.numberText?, hx]⟩
      · cases hl
    case h_9 => exact absurd hl refuseLiteral_ne_ok
    all_goals
      cases hl
      exact ⟨_, rfl, rfl⟩

/-- The literal of a value that is not missing is its content. -/
theorem content?_of_literal {a : Attribute} {v : Value} {l : Literal} (present : v ≠ .null)
    (hl : v.literal a = .ok l) :
    (∃ s, l = .text s ∧ a.content? v = some (.text s)) ∨
      ∃ digits, l = .number digits ∧ IsNumeral digits ∧ a.content? v = some (.number digits) := by
  have content : a.content? v =
      if a.type = .string then (v.iso?.or v.text?).map .text else v.numberText?.map .number := by
    unfold Attribute.content?
    split
    · exact absurd rfl present
    · rfl
  by_cases string : a.type = .string
  · rw [content, if_pos string]
    left
    simp only [Value.literal, string] at hl
    split at hl
    · rename_i s iso
      cases hl
      exact ⟨s, rfl, by simp [iso]⟩
    · rename_i s iso text
      cases hl
      exact ⟨s, rfl, by simp [iso, text]⟩
    · exact absurd hl refuseLiteral_ne_ok
  · rw [content, if_neg string]
    have blob : a.type ≠ .blob := by
      intro blob
      simp [Value.literal, blob] at hl
    obtain ⟨digits, rfl, hd⟩ := numberText?_of_literal blob string hl
    exact .inr ⟨digits, rfl, isNumeral_of_numberText? hd, by rw [hd]; rfl⟩

/-- Text in brackets gives its tokens in brackets. -/
theorem lexes_bracketed {s : String} {ts : List Token} (hs : Lexes s ts) :
    Lexes ("(" ++ s ++ ")") (.opening :: (ts ++ [.closing])) :=
  ((closes_opening.append hs).append closes_closing rfl rfl).lexes

variable {h : Header}

/-- The comparison of an entry is read as its field and its content. -/
theorem lexes_of_encodeEntry (named : ∀ n ∈ h.names, n ≠ "") {e : Label × Value} {c : Cond}
    (he : encodeEntry h e = .ok c) :
    ∃ x, h.content? e = some x ∧ x.2.IsWritten ∧ Lexes c.render (comparisonTokens x) := by
  obtain ⟨k, v⟩ := e
  obtain ⟨field, a, rfl, hf, hc⟩ := encodeEntry_cases he
  have nonempty : field ≠ "" :=
    named field (Header.mem_names_iff.mpr ⟨a, Header.find?_eq_some_iff.mp hf⟩)
  have name := lexes_quote nonempty
  have found {x : Content} (hx : a.content? v = some x) :
      h.content? (.name field, v) = some (field, x) := by
    simp [Header.content?, hf, hx]
  obtain ⟨rfl, -, rfl⟩ | ⟨present, l, hl, rfl⟩ := hc
  · refine ⟨(field, .null), found rfl, trivial, ?_⟩
    have missing : Lexes "NULL" [.word "NULL"] := lexes_word (by decide) (by decide)
    have is : Closes " IS " [.word "IS"] := fun _ => rfl
    have words : quote field ++ " IS NULL" = quote field ++ " IS " ++ "NULL" := by
      rw [String.append_assoc]
      rfl
    rw [Cond.render, words]
    exact (name.append is rfl rfl).append missing
  · have before : Closes (quote field ++ "=") [.name field, .equals] :=
      name.append closes_equals rfl rfl
    obtain ⟨s, rfl, hx⟩ | ⟨digits, rfl, numeral, hx⟩ := content?_of_literal present hl
    · exact ⟨(field, .text s), found hx, trivial, before.append (lexes_text s)⟩
    · exact ⟨(field, .number digits), found hx, numeral, before.append (lexes_numeral numeral)⟩

/-- The condition of a record is read as its fields and their contents. -/
theorem lexes_of_encodeRecord (named : ∀ n ∈ h.names, n ≠ "") {r : Record} {c : Cond}
    (he : encodeRecord h r = .ok c) :
    ∃ row, h.contents? r = some row ∧ (∀ e ∈ row, e.2.IsWritten) ∧
      Lexes c.render (recordTokens row) := by
  obtain ⟨empty, rfl⟩ | ⟨cs, some, hcs, rfl⟩ := encodeRecord_cases he
  · refine ⟨[], by rw [Header.contents?, empty]; rfl, by simp, ?_⟩
    exact lexes_word (by decide) (by decide)
  · obtain ⟨row, found, pairs⟩ := mapM_eq_pure_of_forall₂ hcs
      (P := fun d x => x.2.IsWritten ∧ Lexes d.render (comparisonTokens x))
      fun e d hd => lexes_of_encodeEntry named hd
    refine ⟨row, found, fun e he => ?_, ?_⟩
    · obtain ⟨d, -, hd⟩ := exists_of_mem_right pairs he
      exact hd.1
    · have nonempty : row ≠ [] := by
        rintro rfl
        exact some (List.forall₂_nil_right_iff.mp pairs)
      rw [recordTokens, if_neg nonempty, Cond.render, renderAll_eq_map]
      refine lexes_joinWith closes_and rfl rfl (by simpa using some) ?_
      rw [List.forall₂_map_left_iff, List.forall₂_map_right_iff]
      exact pairs.imp fun _ _ hd => hd.2

theorem encodeRecords_of_encodeTuples {records : List Record} {c : Cond}
    {before after : List Notice} (hr : (encodeTuples h records).Returns before c after) :
    encodeRecords h records = .ok c := by
  unfold encodeTuples at hr
  split at hr
  · obtain ⟨_, _, -, hr⟩ := report_bind.mp hr
    exact (report_lift.mp hr).1
  · exact (report_lift.mp hr).1

/-- **Tuple conditions are read back exactly.** Reading the condition of a list of records gives the
list of records, each as the list of its fields with what they are compared with. -/
theorem readRecords_encodeTuples {h : Header} {records : List Record} {c : Cond}
    {before after : List Notice} (named : ∀ n ∈ h.names, n ≠ "")
    (hr : (encodeTuples h records).Returns before c after) :
    ∃ rows, records.mapM h.contents? = some rows ∧ readRecords c.render = some rows := by
  obtain ⟨cs, pairs, hc⟩ := encodeRecords_cases (encodeRecords_of_encodeTuples hr)
  obtain ⟨rows, found, read⟩ := mapM_eq_pure_of_forall₂ pairs
    (P := fun d row => (∀ e ∈ row, e.2.IsWritten) ∧ Lexes d.render (recordTokens row))
    fun r d hd => lexes_of_encodeRecord named hd
  have written : ∀ row ∈ rows, ∀ e ∈ row, e.2.IsWritten := fun row hrow => by
    obtain ⟨d, -, hd⟩ := exists_of_mem_right read hrow
    exact hd.1
  have inner : ∀ row ∈ rows, ∀ t ∈ recordTokens row, t.IsInner ∧ t ≠ .word "OR" :=
    fun row hrow => isInner_of_mem_recordTokens (written row hrow)
  refine ⟨rows, found, ?_⟩
  -- A single record stands without brackets; among several, each has its own.
  obtain ⟨-, rfl⟩ | ⟨several, rfl⟩ := hc
  · obtain ⟨row, _, ⟨-, tokens⟩, rest, rfl⟩ := List.forall₂_cons_left_iff.mp read
    cases rest
    refine readRecords_of_lexes (by simp) written (fun row hrow => ?_) unwrapped_recordTokens
      (by simpa using tokens)
    exact stays_of_isInner (fun t ht => (inner row hrow t ht).1) fun t ht => (inner row hrow t ht).2
  · have some : cs ≠ [] := by
      rintro rfl
      rw [List.forall₂_nil_right_iff.mp pairs] at several
      simp at several
    have nonempty : rows ≠ [] := by
      rintro rfl
      exact some (List.forall₂_nil_right_iff.mp read)
    refine readRecords_of_lexes nonempty written (fun row hrow => ?_) unwrapped_bracketedTokens ?_
    · exact stays_bracketed (by simp) fun t ht => (inner row hrow t ht).1
    · rw [Cond.render, renderAll_eq_map, List.map_map]
      refine lexes_joinWith closes_or rfl rfl (by simpa using some) ?_
      rw [List.forall₂_map_left_iff, List.forall₂_map_right_iff]
      exact read.imp fun d row hd => lexes_bracketed hd.2

namespace Sample

/-- A header whose names look like parts of a condition. -/
def hostile : Header :=
  ⟨[{ name := "a`b", type := .string, isKey := true }, column ") OR (" false], by decide⟩

/-- Records with quotes, backslashes, brackets and keywords in their values, and one without
entries. -/
def hostileRecords : List Record :=
  [.ofEntries [(.name "a`b", .text "\\') OR (`a`='' AND '"), (.name ") OR (", .int (-5))],
    .ofEntries [(.name ") OR (", .null), (.name "a`b", .text "\\")], .empty]

end Sample

theorem readRecords_hostile :
    ∃ c, (encodeTuples Sample.hostile Sample.hostileRecords).Returns [] c [] ∧
      (∀ n ∈ Sample.hostile.names, n ≠ "") ∧
      ∃ rows, Sample.hostileRecords.mapM Sample.hostile.contents? = some rows ∧
        readRecords c.render = some rows :=
  have named : ∀ n ∈ Sample.hostile.names, n ≠ "" := by decide
  have hr : (encodeTuples Sample.hostile Sample.hostileRecords).Returns [] _ [] := rfl
  ⟨_, hr, named, readRecords_encodeTuples named hr⟩

end Relational

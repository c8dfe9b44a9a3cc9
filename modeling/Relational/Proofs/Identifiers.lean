import Mathlib.Data.List.Basic
import Mathlib.Data.List.TakeDrop
import Relational.Error
import Relational.Proofs.Grammar

/-!
# Reading identifiers and references back

The server reads an identifier from its first backtick to the next one that stands alone; two
backticks in a row stand for one. `readName_eq_some_iff` says that this undoes quoting, whatever
follows, and that nothing else is read as the identifier.

A reference is written with or without quotes around its parts. Reading it cuts the text at the first
dot and drops blanks and then backticks around both parts, so it finds the parts of a reference
again if these do not contain what is cut off and dropped.
-/

namespace Relational

/-! ### Identifiers -/

/-- Read the inside of a quoted identifier and the backtick that closes it, and give what follows.
Two backticks stand for one. -/
def readInside : List Char → Option (List Char × List Char)
  | [] => none
  | [c] => if c = backtick then some ([], []) else none
  | c :: d :: cs =>
    if c ≠ backtick then (readInside (d :: cs)).map fun r => (c :: r.1, r.2)
    else if d = backtick then (readInside cs).map fun r => (c :: r.1, r.2)
    else some ([], d :: cs)

/-- Read a quoted identifier at the start of a text, and give what follows. -/
def readName (text : String) : Option (String × String) :=
  match text.toList with
  | [] => none
  | c :: cs =>
    if c = backtick then (readInside cs).map fun r => (String.ofList r.1, String.ofList r.2)
    else none

theorem readInside_cons_of_ne {c : Char} (h : c ≠ backtick) (cs : List Char) :
    readInside (c :: cs) = (readInside cs).map fun r => (c :: r.1, r.2) := by
  cases cs with
  | nil => simp [readInside, h]
  | cons d cs => simp [readInside, h]

theorem readInside_doubled (s : List Char) {rest : List Char} (h : rest.head? ≠ some backtick) :
    readInside (doubled backtick s ++ backtick :: rest) = some (s, rest) := by
  induction s with
  | nil =>
    cases rest with
    | nil => rfl
    | cons d rest =>
      have single : d ≠ backtick := fun e => h (congrArg some e)
      simp [readInside, single]
  | cons c s ih =>
    by_cases hc : c = backtick
    · subst hc
      simp [doubled_cons_self, readInside, ih]
    · rw [doubled_cons_of_ne hc, List.cons_append, readInside_cons_of_ne hc, ih]
      rfl

theorem eq_doubled_of_readInside {text s rest : List Char} (h : readInside text = some (s, rest)) :
    text = doubled backtick s ++ backtick :: rest ∧ rest.head? ≠ some backtick := by
  fun_induction readInside text generalizing s with
  | case1 => cases h
  | case2 =>
    cases h
    exact ⟨rfl, by simp⟩
  | case3 => cases h
  | case4 c d cs hc ih =>
    obtain ⟨⟨s', rest'⟩, read, e⟩ := Option.map_eq_some_iff.mp h
    cases e
    obtain ⟨chars, single⟩ := ih read
    rw [doubled_cons_of_ne hc, List.cons_append, ← chars]
    exact ⟨rfl, single⟩
  | case5 c cs hc ih =>
    obtain ⟨⟨s', rest'⟩, read, e⟩ := Option.map_eq_some_iff.mp h
    cases e
    obtain ⟨chars, single⟩ := ih read
    rw [not_not.mp hc, doubled_cons_self, List.cons_append, List.cons_append, ← chars]
    exact ⟨rfl, single⟩
  | case6 c d cs hc hd =>
    cases h
    rw [not_not.mp hc]
    exact ⟨rfl, fun e => hd (Option.some.inj e)⟩

theorem toList_quote {s : String} (hs : s ≠ "") :
    (quote s).toList = backtick :: (doubled backtick s.toList ++ [backtick]) := by
  obtain ⟨c, cs, chars⟩ := List.exists_cons_of_ne_nil (mt String.toList_eq_nil_iff.mp hs)
  rw [quote, String.toList_ofList, chars, quoteChars]

theorem doubled_eq_self {cs : List Char} (h : backtick ∉ cs) : doubled backtick cs = cs := by
  induction cs with
  | nil => rfl
  | cons c cs ih =>
    obtain ⟨hc, hcs⟩ := not_or.mp (mt List.mem_cons.mpr h)
    rw [doubled_cons_of_ne (Ne.symm hc), ih hcs]

/-- **Quoting is undone by reading.** What is read as a quoted identifier and a rest is the quoted
identifier followed by the rest, and no backtick follows the quotes. -/
theorem readName_eq_some_iff {text s rest : String} (hs : s ≠ "") :
    readName text = some (s, rest) ↔
      text = quote s ++ rest ∧ rest.toList.head? ≠ some backtick := by
  constructor
  · intro h
    unfold readName at h
    split at h
    · cases h
    · rename_i d ds first
      split at h
      · obtain ⟨⟨inside, after⟩, read, e⟩ := Option.map_eq_some_iff.mp h
        cases e
        obtain ⟨all, single⟩ := eq_doubled_of_readInside read
        refine ⟨String.toList_injective ?_, by rwa [String.toList_ofList]⟩
        rw [first, String.toList_append, toList_quote hs, String.toList_ofList, String.toList_ofList,
          all, ‹d = backtick›]
        simp
      · cases h
  · rintro ⟨rfl, single⟩
    have all : (quote s ++ rest).toList =
        backtick :: (doubled backtick s.toList ++ backtick :: rest.toList) := by
      rw [String.toList_append, toList_quote hs]
      simp
    rw [readName, all]
    simp [readInside_doubled s.toList single]

theorem readName_quote (s : String) :
    readName (quote s) = if s = "" then none else some (s, "") := by
  split
  · subst s
    rfl
  · rename_i hs
    exact (readName_eq_some_iff hs).mpr ⟨by rw [String.append_empty], by simp⟩

/-- Different identifiers are written differently. -/
theorem quote_injective : Function.Injective quote := by
  intro s t h
  have same := congrArg readName h
  rw [readName_quote, readName_quote] at same
  split at same <;> split at same
  · rw [‹s = ""›, ‹t = ""›]
  · cases same
  · cases same
  · exact (Prod.mk.inj (Option.some.inj same)).1

/-! ### References -/

namespace TableRef

/-- The parts of a reference contain nothing that is cut off or dropped when it is read: no backticks,
no blanks at their ends, and no dot before the one that separates them. -/
structure IsReadable (t : TableRef) : Prop where
  name_unquoted : backtick ∉ t.name.toList
  schema_unquoted : backtick ∉ t.schema.toList
  name_trimmed : Text.IsTrimmed t.name.toList
  schema_trimmed : Text.IsTrimmed t.schema.toList
  schema_dotless : '.' ∉ t.schema.toList
  name_dotless : t.schema = "" → '.' ∉ t.name.toList

/-- A text is cut before its first dot, or not at all. -/
theorem span_eq_of_dotless {before rest : List Char} (dotless : '.' ∉ before)
    (dot : ∀ c ∈ rest.head?, c = '.') : (before ++ rest).span (· ≠ '.') = (before, rest) := by
  rw [List.span_eq_takeWhile_dropWhile, Prod.mk.injEq, Text.takeWhile_dropWhile_eq_iff]
  refine ⟨rfl, fun c hc => decide_eq_true fun e => dotless (e ▸ hc), fun c hc => ?_⟩
  rw [dot c hc]
  rfl

theorem cutAtDot_of_not_mem {cs : List Char} (h : '.' ∉ cs) : cutAtDot cs = (cs, none) := by
  have none : ∀ c ∈ ([] : List Char).head?, c = '.' := by simp
  have cut := span_eq_of_dotless h none
  rw [List.append_nil] at cut
  rw [cutAtDot, cut]

theorem cutAtDot_append {before : List Char} (h : '.' ∉ before) (after : List Char) :
    cutAtDot (before ++ '.' :: after) = (before, some after) := by
  rw [cutAtDot, span_eq_of_dotless h (by simp)]

/-- Blanks at the ends of a text are none if it stands between other characters. -/
theorem isTrimmed_between {marks s : List Char} (hm : ∀ c ∈ marks, Text.isBlank c = false)
    (hs : Text.IsTrimmed s) : Text.IsTrimmed (marks ++ s ++ marks) := by
  cases marks with
  | nil => simpa using hs
  | cons m ms =>
    refine ⟨fun c hc => ?_, fun c hc => ?_⟩
    · cases hc
      exact hm m List.mem_cons_self
    · rw [List.getLast?_append_cons] at hc
      exact hm c (List.mem_of_getLast? hc)

/-- Backticks around a part are dropped; there may be none. -/
theorem bare_between {marks : List Char} (hm : ∀ c ∈ marks, c = backtick) {s : String}
    (unquoted : backtick ∉ s.toList) (trimmed : Text.IsTrimmed s.toList) :
    bare (marks ++ s.toList ++ marks) = s := by
  have visible : Text.isBlank backtick = false := by decide
  have outer : Text.IsTrimmed (marks ++ s.toList ++ marks) :=
    isTrimmed_between (fun c hc => hm c hc ▸ visible) trimmed
  have blanks : Text.AreBlanks [] := List.forall_mem_nil _
  have trim : Text.trim (marks ++ s.toList ++ marks) = marks ++ s.toList ++ marks := by
    simpa using Text.trim_eq_of_isTrimmed outer blanks blanks
  have other : ∀ c ∈ s.toList, (c == backtick) = false := fun c hc =>
    beq_eq_false_iff_ne.mpr fun e => unquoted (e ▸ hc)
  rw [bare, trim, Text.trimWhile_append, String.ofList_toList]
  · exact fun c hc => other c (List.mem_of_head? hc)
  · exact fun c hc => other c (List.mem_of_getLast? hc)
  · exact fun c hc => beq_iff_eq.mpr (hm c hc)
  · exact fun c hc => beq_iff_eq.mpr (hm c hc)

/-- The characters of a reference with marks around each part. -/
def written (marks : List Char) (t : TableRef) : List Char :=
  if t.schema = "" then marks ++ t.name.toList ++ marks
  else marks ++ t.schema.toList ++ marks ++ '.' :: (marks ++ t.name.toList ++ marks)

theorem toList_qualifiedName (t : TableRef) : t.qualifiedName.toList = written [] t := by
  unfold qualifiedName written
  split <;> simp

theorem IsReadable.toList_sql {t : TableRef} (h : t.IsReadable) :
    t.sql.toList = written [backtick] t := by
  unfold sql written
  split
  · rw [toList_quote t.name_ne, doubled_eq_self h.name_unquoted]
    rfl
  · rename_i schema_ne
    rw [String.toList_append, String.toList_append, toList_quote schema_ne, toList_quote t.name_ne,
      doubled_eq_self h.schema_unquoted, doubled_eq_self h.name_unquoted]
    simp

/-- A written reference is read back, with or without backticks around its parts. -/
theorem IsReadable.parse_eq {t : TableRef} (h : t.IsReadable) {marks : List Char}
    (hm : ∀ c ∈ marks, c = backtick) {text : String} (chars : text.toList = written marks t) :
    parse text none = .ok t := by
  have dotless {cs : List Char} (hc : '.' ∉ cs) : '.' ∉ marks ++ cs ++ marks := by
    have other : '.' ∉ marks := fun mem => absurd (hm _ mem) (by decide)
    simp [other, hc]
  have name := bare_between hm h.name_unquoted h.name_trimmed
  have read : parse? text none = some t := by
    by_cases empty : t.schema = ""
    · rw [parse?, chars, written, if_pos empty,
        cutAtDot_of_not_mem (dotless (h.name_dotless empty))]
      simp only [Option.getD_none, name, ← empty, make?_self]
    · have schema := bare_between hm h.schema_unquoted h.schema_trimmed
      rw [parse?, chars, written, if_neg empty, cutAtDot_append (dotless h.schema_dotless)]
      simp only [Option.getD_none, name, schema, make?_self]
  rw [parse, read]

end TableRef

/-- **Identifiers and references are read back.** A quoted identifier that is not followed by a
backtick is read as itself and leaves what follows it, and only a quoted identifier is read so;
hence quoting keeps identifiers apart. A reference is found again in both of its written forms. -/
theorem identifiers_read_back :
    (∀ s rest : String, s ≠ "" → rest.toList.head? ≠ some backtick →
      readName (quote s ++ rest) = some (s, rest)) ∧
    (∀ text s rest : String, s ≠ "" → readName text = some (s, rest) → text = quote s ++ rest) ∧
    Function.Injective quote ∧
    ∀ t : TableRef, t.IsReadable →
      TableRef.parse t.qualifiedName none = .ok t ∧ TableRef.parse t.sql none = .ok t := by
  refine ⟨fun s rest hs single => (readName_eq_some_iff hs).mpr ⟨rfl, single⟩,
    fun text s rest hs read => ((readName_eq_some_iff hs).mp read).1, quote_injective,
    fun t h => ⟨?_, ?_⟩⟩
  · exact h.parse_eq (List.forall_mem_nil _) t.toList_qualifiedName
  · exact h.parse_eq (fun c hc => List.mem_singleton.mp hc) h.toList_sql

namespace Sample

/-- A table whose name has a dot and a blank inside. -/
def dotted : TableRef := ⟨"daily. log", "lab", by decide⟩

theorem isReadable_dotted : dotted.IsReadable where
  name_unquoted := by decide
  schema_unquoted := by decide
  name_trimmed := ⟨fun c hc => by cases hc; decide, fun c hc => by cases hc; decide⟩
  schema_trimmed := ⟨fun c hc => by cases hc; decide, fun c hc => by cases hc; decide⟩
  schema_dotless := by decide
  name_dotless := fun empty => absurd empty (by decide)

/-- Backticks at both ends of an identifier run into the quotes. -/
theorem identifiers_read_back_marks :
    readName (quote "``a`" ++ ".`b`") = some ("``a`", ".`b`") ∧
      quote "``a`" ≠ quote "`a``" ∧ dotted.IsReadable ∧
      TableRef.parse dotted.qualifiedName none = .ok dotted ∧
      TableRef.parse dotted.sql none = .ok dotted := by
  obtain ⟨read, -, apart, references⟩ := identifiers_read_back
  refine ⟨read _ _ (by decide) (by decide), ?_, isReadable_dotted,
    references dotted isReadable_dotted⟩
  exact apart.ne (by decide)

end Sample

end Relational

import Relational.Error
import Relational.Text.Case

/-!
# Configuration text

A configuration consists of sections with named options. Option names are read without regard to
case. A value goes on over lines that are indented deeper than its first one. Options of the section
`DEFAULT` belong to every section. A value may refer to other options of its section.
-/

namespace Relational.Config

/-- The options of a section: the lines of each value. -/
abbrev Options := List (String × List String)

/-- What has been read: the sections, the section and the option that are open, the indentation of
the last line that began something, and whether a line could not be read. -/
structure Reading where
  sections : List (String × Options) := []
  openSection? : Option String := none
  openOption? : Option String := none
  indent : Nat := 0
  unreadable : Bool := false

/-- The section whose options belong to every section. -/
def defaultSection : String := "DEFAULT"

/-- Write all line ends as line feeds. -/
def unifyLineEnds : List Char → List Char
  | [] => []
  | '\r' :: '\n' :: cs => '\n' :: unifyLineEnds cs
  | '\r' :: cs => '\n' :: unifyLineEnds cs
  | c :: cs => c :: unifyLineEnds cs

/-- Split text at line feeds; `line` holds the reversed start of the current line. -/
def splitLines (line : List Char) : List Char → List (List Char)
  | [] => [line.reverse]
  | '\n' :: cs => line.reverse :: splitLines [] cs
  | c :: cs => splitLines (c :: line) cs

/-- Whether a trimmed line is a comment. -/
def isComment : List Char → Bool
  | '#' :: _ | ';' :: _ => true
  | _ => false

/-- The name in brackets at the start of a trimmed line, up to the last closing bracket. -/
def sectionName? : List Char → Option String
  | '[' :: cs =>
    match (cs.reverse.dropWhile (· ≠ ']')).tail.reverse with
    | [] => none
    | name => some (String.ofList name)
  | _ => none

/-- Split a trimmed line at its first equality sign or colon. -/
def splitOption? (cs : List Char) : Option (String × String) :=
  match cs.span fun c => c ≠ '=' && c ≠ ':' with
  | (_, []) => none
  | (key, _ :: value) =>
    some (String.ofList (Text.dropSuffixWhile Text.isBlank key), String.ofList (Text.trim value))

/-- Change the entry of a name, if there is one. -/
def update {α : Type} (name : String) (change : α → α) (entries : List (String × α)) :
    List (String × α) :=
  entries.map fun e => if e.1 = name then (e.1, change e.2) else e

namespace Reading

/-- Add a line to the open option, if there is one. -/
def extend (s : Reading) (line : String) : Reading :=
  match s.openSection?, s.openOption? with
  | some name, some option =>
    { s with sections := update name (update option (· ++ [line])) s.sections }
  | _, _ => s

/-- Open a section. Only the default section may be opened again. -/
def openSection (s : Reading) (name : String) : Except ConfigFault Reading :=
  match s.sections.lookup name with
  | some _ =>
    if name = defaultSection then .ok { s with openSection? := some name, openOption? := none }
    else .error .duplicateSection
  | none =>
    .ok { s with
      sections := s.sections ++ [(name, [])]
      openSection? := some name
      openOption? := none }

/-- Begin an option of the open section. An option without a name makes the text unreadable. -/
def openOption (s : Reading) (name key value : String) : Except ConfigFault Reading :=
  let key := Text.lower key
  match (s.sections.lookup name).bind (·.lookup key) with
  | some _ => .error .duplicateOption
  | none =>
    .ok { s with
      sections := update name (· ++ [(key, [value])]) s.sections
      openOption? := if key = "" then none else some key
      unreadable := s.unreadable || key = "" }

/-- Read a line that continues nothing. -/
def begin (s : Reading) (value : List Char) : Except ConfigFault Reading :=
  match sectionName? value, s.openSection? with
  | some name, _ => s.openSection name
  | none, none => .error .missingSectionHeader
  | none, some name =>
    match splitOption? value with
    | some (key, value) => s.openOption name key value
    | none => .ok { s with unreadable := true }

/-- Read a line. -/
def line (s : Reading) (line : List Char) : Except ConfigFault Reading :=
  let value := Text.trim line
  if isComment value then .ok s
  else if value.isEmpty then .ok (s.extend "")
  else
    let indent := (line.takeWhile Text.isBlank).length
    if s.openOption?.isSome && indent > s.indent then .ok (s.extend (String.ofList value))
    else { s with indent }.begin value

end Reading

/-- The sections of a configuration with the values of their options. -/
abbrev Sections := List (String × List (String × String))

/-- Read a configuration. Lines that cannot be read are reported after all others. -/
def read (text : String) : Except ConfigFault Sections := do
  let s ← (splitLines [] (unifyLineEnds text.toList)).foldlM Reading.line {}
  if s.unreadable then throw .unreadableLine
  return s.sections.map fun e =>
    (e.1, e.2.map fun o => (o.1, Text.stripEnd (Text.joinWith "\n" o.2)))

/-- The value of an option of a section, as it was written. -/
def value? (sections : Sections) (name option : String) : Option String :=
  match (sections.lookup name).bind (·.lookup (Text.lower option)) with
  | some v => some v
  | none => (sections.lookup defaultSection).bind (·.lookup (Text.lower option))

/-- A part of a value: a character, a reference to another option, or a mistake. -/
inductive Piece where
  | char (c : Char)
  | reference (name : String)
  | mistake

/-- How far a reference has been read. -/
inductive Progress where
  | outside
  | sign
  | name (reversed : List Char)
  | closed (reversed : List Char)

/-- Split a value into pieces, up to the first mistake. A percent sign is written twice; a reference
is a name in parentheses after a percent sign and followed by an `s`. -/
def pieces : Progress → List Char → List Piece
  | .outside, [] => []
  | _, [] => [.mistake]
  | .outside, c :: cs => if c = '%' then pieces .sign cs else .char c :: pieces .outside cs
  | .sign, c :: cs =>
    if c = '%' then .char '%' :: pieces .outside cs
    else if c = '(' then pieces (.name []) cs
    else [.mistake]
  | .name acc, c :: cs =>
    if c = ')' then (if acc.isEmpty then [.mistake] else pieces (.closed acc) cs)
    else pieces (.name (c :: acc)) cs
  | .closed acc, c :: cs =>
    if c = 's' then .reference (String.ofList acc.reverse) :: pieces .outside cs else [.mistake]

/-- Replace the references of a value by the values they refer to, at most `depth` levels deep. -/
def expand (lookup : String → Option String) : (depth : Nat) → String → Except ConfigFault String
  | 0, _ => .error .deepReference
  | depth + 1, s => do
    let parts ← (pieces .outside s.toList).mapM fun piece =>
      match piece with
      | .char c => .ok (String.ofList [c])
      | .mistake => .error .badReference
      | .reference name =>
        match lookup name with
        | none => .error .missingReference
        | some v => if '%' ∈ v.toList then expand lookup depth v else .ok v
    return String.join parts

/-- The greatest depth of references. -/
def referenceDepth : Nat := 10

/-- The value of an option with its references replaced; none if there is no such option. -/
def option? (sections : Sections) (name option : String) : Except Error (Option String) :=
  match value? sections name option with
  | none => .ok none
  | some v =>
    match expand (value? sections name) referenceDepth v with
    | .ok s => .ok (some s)
    | .error e => .error (.fault (.config e))

end Relational.Config

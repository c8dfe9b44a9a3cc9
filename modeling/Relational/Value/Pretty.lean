import Relational.Value.Order
import Relational.Value.Show

/-!
# Values over several lines

A value that does not fit into a line of eighty characters is laid out with one element on each
line. Entries are sorted by label, and so are the members of a set that takes several lines. Long
text is cut after blanks, bytes in groups of four.
-/

namespace Relational

/-- The number of characters of a line. -/
def lineWidth : Int := 80

/-- Labels in order: positions first, names by their characters. -/
def Label.before : Label → Label → Bool
  | .position a, .position b => a < b
  | .position _, .name _ => true
  | .name _, .position _ => false
  | .name s, .name t => s < t

/-- Labelled items sorted by label. -/
def sortedByLabel {α : Type} (items : List (Label × α)) : List (Label × α) :=
  items.mergeSort fun a b => !b.1.before a.1

mutual

/-- The form of a value for display with sorted entries. -/
def Value.tidy : Value → Except Error String
  | .list vs => do return bracketed "[" "]" (← tidyAll vs)
  | .tuple [v] => do return "(" ++ (← v.tidy) ++ ",)"
  | .tuple vs => do return bracketed "(" ")" (← tidyAll vs)
  | .record false es => do
    let items ← tidyEntries es
    return bracketed "\x7b" "\x7d" ((sortedByLabel items).map fun e => e.1.shown ++ ": " ++ e.2)
  | v => v.shown
termination_by structural v => v

/-- The forms of several values with sorted entries. -/
def tidyAll : List Value → Except Error (List String)
  | [] => .ok []
  | v :: vs => do return (← v.tidy) :: (← tidyAll vs)
termination_by structural vs => vs

/-- The forms of the values of a record with sorted entries. -/
def tidyEntries : List (Label × Value) → Except Error (List (Label × String))
  | [] => .ok []
  | (k, v) :: rest => do return (k, ← v.tidy) :: (← tidyEntries rest)
termination_by structural es => es

end

/-- Characters that end a line. -/
def isLineEnd (c : Char) : Bool :=
  c.toNat ∈ [0xa, 0xb, 0xc, 0xd, 0x1c, 0x1d, 0x1e, 0x85, 0x2028, 0x2029]

/-- Cut text into lines, each with its end. -/
def cutLines (line : List Char) : List Char → List (List Char)
  | [] => if line.isEmpty then [] else [line.reverse]
  | '\r' :: '\n' :: cs => ('\n' :: '\r' :: line).reverse :: cutLines [] cs
  | c :: cs =>
    if isLineEnd c then (c :: line).reverse :: cutLines [] cs else cutLines (c :: line) cs

/-- Cut a line into words, each with the blanks after it. -/
def cutWords (word : List Char) (blanks : Bool) : List Char → List (List Char)
  | [] => if word.isEmpty then [] else [word.reverse]
  | c :: cs =>
    if Text.isBlank c then cutWords (c :: word) true cs
    else if blanks then word.reverse :: cutWords [c] false cs
    else cutWords (c :: word) false cs

/-- The quoted form of some characters. -/
def quotedChars (cs : List Char) : String := Text.quoted (String.ofList cs)

/-- Collect parts as long as their quoted form fits; the last part leaves room for what follows. -/
def fillChunks {α : Type} (quoted : List α → String) (width allowance : Int) (current : List α) :
    List (List α) → List String
  | [] => if current.isEmpty then [] else [quoted current]
  | part :: rest =>
    let room := if rest.isEmpty then width - allowance else width
    let candidate := current ++ part
    if (quoted candidate).length > room then
      (if current.isEmpty then [] else [quoted current]) ++
        fillChunks quoted width allowance part rest
    else fillChunks quoted width allowance candidate rest

/-- The quoted pieces of text: lines, cut further where they do not fit. -/
def textChunks (width allowance : Int) : List (List Char) → List String
  | [] => []
  | line :: rest =>
    let after := if rest.isEmpty then allowance else 0
    let whole := quotedChars line
    (if whole.length ≤ width - after then [whole]
      else fillChunks quotedChars width after [] (cutWords [] false line)) ++
      textChunks width allowance rest

/-- A line break followed by blanks. -/
def breakLine (indent : Nat) : String := "\n" ++ String.ofList (List.replicate indent ' ')

/-- Pieces below each other, in parentheses if they stand alone. -/
def stackChunks (alone : Bool) (indent : Nat) (chunks : List String) : String :=
  let body := Text.joinWith (breakLine indent) chunks
  if alone then "(" ++ body ++ ")" else body

/-- Text over several lines. -/
def layoutText (alone : Bool) (indent allowance : Nat) (s : String) : String :=
  let indent := if alone then indent + 1 else indent
  let allowance := if alone then allowance + 1 else allowance
  match textChunks (lineWidth - indent) allowance (cutLines [] s.toList) with
  | [] => Text.quoted s
  | [chunk] => chunk
  | chunks => stackChunks alone indent chunks

/-- Cut bytes into groups of four. -/
def groupsOfFour : List UInt8 → List (List UInt8)
  | a :: b :: c :: d :: rest => [a, b, c, d] :: groupsOfFour rest
  | [] => []
  | rest => [rest]

/-- Bytes over several lines. Only a last group that is not full leaves room for what follows. -/
def layoutBytes (alone : Bool) (indent allowance : Nat) (data : List UInt8) : String :=
  if data.length ≤ 4 then Text.quotedBytes data
  else
    let indent := if alone then indent + 1 else indent
    let allowance := if alone then allowance + 1 else allowance
    let after : Int := if data.length % 4 = 0 then 0 else allowance
    stackChunks alone indent
      (fillChunks Text.quotedBytes (lineWidth - indent) after [] (groupsOfFour data))

/-- Laid-out elements below each other. Each takes the room that must stay free after it: one
character for a comma, the given allowance after the last. -/
def stackItems (indent allowance : Nat) :
    List (Nat → Except Error String) → Except Error (List String)
  | [] => .ok []
  | [item] => do return [← item allowance]
  | item :: rest => do return (← item 1) :: (← stackItems indent allowance rest)

/-- Laid-out elements between brackets. -/
def stackBracketed (opening closing : String) (indent allowance : Nat)
    (items : List (Nat → Except Error String)) : Except Error String := do
  let items ← stackItems (indent + 1) (allowance + closing.length) items
  return opening ++ Text.joinWith ("," ++ breakLine (indent + 1)) items ++ closing

/-- Items sorted by the values they stand for, those without an order by the names of their kinds.
-/
def sortedByValue {α : Type} (items : List (Value × α)) : Except Error (List (Value × α)) :=
  let inOrder : Report (List (Value × α)) := Sorting.sort (·.1.beforeOrKind ·.1) items
  (inOrder.run.run []).1

/-- Whether a text fits between what stands before and after it. -/
def fitsLine (indent allowance : Nat) (s : String) : Bool :=
  (s.length : Int) ≤ lineWidth - indent - allowance

mutual

/-- The layout of a value that starts after `indent` characters and is followed by `allowance`
characters on its last line. -/
def Value.layout (alone : Bool) (indent allowance : Nat) : Value → Except Error String
  | .list vs => do
    let whole ← (Value.list vs).tidy
    if fitsLine indent allowance whole then return whole
    stackBracketed "[" "]" indent allowance (layouts (indent + 1) vs)
  | .tuple vs => do
    let whole ← (Value.tuple vs).tidy
    if fitsLine indent allowance whole then return whole
    stackBracketed "(" (if vs.length = 1 then ",)" else ")") indent allowance
      (layouts (indent + 1) vs)
  | .set vs => do
    let whole ← (Value.set vs).tidy
    if fitsLine indent allowance whole then return whole
    let items ← sortedByValue (vs.zip (layouts (indent + 1) vs))
    stackBracketed "\x7b" "\x7d" indent allowance (items.map Prod.snd)
  | .record frozen es => do
    let sorted ← (Value.record false es).tidy
    let whole ← if frozen then (Value.record true es).tidy else pure sorted
    if fitsLine indent allowance whole then return whole
    if fitsLine indent allowance sorted then return sorted
    stackBracketed "\x7b" "\x7d" indent allowance
      ((sortedByLabel (entryLayouts (indent + 1) es)).map Prod.snd)
  | .text s =>
    .ok (if fitsLine indent allowance (Text.quoted s) then Text.quoted s
      else layoutText alone indent allowance s)
  | .bytes growable data => do
    let whole ← (Value.bytes growable data).shown
    return if fitsLine indent allowance whole then whole
      else if growable then
        "bytearray(" ++ layoutBytes false (indent + 10) (allowance + 1) data ++ ")"
      else layoutBytes alone indent allowance data
  | v => v.shown
termination_by structural v => v

/-- The layouts of several values. -/
def layouts (indent : Nat) : List Value → List (Nat → Except Error String)
  | [] => []
  | v :: vs => (fun allowance => v.layout false indent allowance) :: layouts indent vs
termination_by structural vs => vs

/-- The layouts of the entries of a record, each after its label. -/
def entryLayouts (indent : Nat) :
    List (Label × Value) → List (Label × (Nat → Except Error String))
  | [] => []
  | (k, v) :: rest =>
    (k, fun allowance => do
      let value ← v.layout false (indent + k.shown.length + 2) allowance
      return k.shown ++ ": " ++ value) :: entryLayouts indent rest
termination_by structural es => es

end

/-- A value over as many lines as it needs. -/
def Value.pretty (v : Value) : Except Error String := v.layout true 0 0

end Relational

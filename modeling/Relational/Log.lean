import Relational.Error
import Relational.Value.Pretty

/-!
# Logging

A logger writes its arguments on a line, after a heading if it has one. The heading is a fixed text
or drawn anew for every line. A pretty logger lays out a single value; a disabled one writes
nothing.
-/

namespace Relational

/-- What precedes every entry: a text, unless empty, or the next of some texts. -/
inductive Heading where
  | fixed (s : String)
  | drawn (texts : List String)

/-- One entry: the arguments, what separates them and what ends them. -/
structure LogEntry where
  arguments : List Value
  separator : Option String := none
  ending : Option String := none

/-- A logger with its settings. -/
structure Logger where
  enabled : Bool := true
  pretty : Bool := false
  heading : Heading := .fixed ""

namespace Logger

/-- The next heading, and the headings after it. -/
def draw : Heading → Except Error (List String × Heading)
  | .fixed "" => .ok ([], .fixed "")
  | .fixed s => .ok ([s], .fixed s)
  | .drawn [] => .error (.fault .exhausted)
  | .drawn (s :: rest) => .ok ([s], .drawn rest)

/-- The text of an entry on a line. -/
def line (headings : List String) (e : LogEntry) : Except Error String := do
  let texts ← e.arguments.mapM Value.plain
  return Text.joinWith (e.separator.getD " ") (headings ++ texts) ++ e.ending.getD "\n"

/-- The text of an entry, and the logger for the next one. -/
def write (l : Logger) (e : LogEntry) : Except Error (String × Logger) :=
  if !l.enabled then .ok ("", l)
  else if l.pretty then
    match e with
    | ⟨[v], none, none⟩ => do return ((← v.pretty) ++ "\n", l)
    | _ => .error (.fault .wrongType)
  else do
    let (headings, heading) ← draw l.heading
    return (← line headings e, { l with heading })

/-- The text of several entries. -/
def writeAll (l : Logger) : List LogEntry → Except Error String
  | [] => .ok ""
  | e :: es => do
    let (s, l) ← l.write e
    return s ++ (← l.writeAll es)

end Logger
end Relational

import Relational.Calendar

/-!
# Counted moments

A moment may be given as a number of units since the start of 1970, from years down to attoseconds.
Its text has as many parts as the unit needs; reading a text takes the unit from the parts that are
there. The count is a machine word, and one word stands for no time at all.
-/

namespace Relational

/-- Units in which moments are counted. -/
inductive TickUnit where
  | year
  | month
  | day
  | hour
  | minute
  | second
  | milli
  | micro
  | nano
  | pico
  | femto
  | atto
  deriving DecidableEq, Repr

/-- A moment counted in units since the start of 1970, or no time at all. -/
inductive Tick where
  | missing
  | counted (unit : TickUnit) (count : Int)
  deriving DecidableEq, Repr

/-- The day at which counting starts. -/
def epochDay : Int := dayNumber 1970 1 1

/-- Attoseconds of a second. -/
def attosPerSecond : Int := 1000000000000000000

namespace TickUnit

/-- The attoseconds of a unit; years and months have no fixed length. -/
def length? : TickUnit → Option Int
  | .year | .month => none
  | .day => some (86400 * attosPerSecond)
  | .hour => some (3600 * attosPerSecond)
  | .minute => some (60 * attosPerSecond)
  | .second => some attosPerSecond
  | .milli => some 1000000000000000
  | .micro => some 1000000000000
  | .nano => some 1000000000
  | .pico => some 1000000
  | .femto => some 1000
  | .atto => some 1

/-- The place of a unit among all of them, from the coarsest on. -/
def rank : TickUnit → Nat
  | .year => 0
  | .month => 1
  | .day => 2
  | .hour => 3
  | .minute => 4
  | .second => 5
  | .milli => 6
  | .micro => 7
  | .nano => 8
  | .pico => 9
  | .femto => 10
  | .atto => 11

/-- How many of the next finer unit a unit is reckoned at; a month is reckoned as one week. -/
def step : TickUnit → Nat
  | .year => 1
  | .month => 7
  | .day => 24
  | .hour | .minute => 60
  | _ => 1000

/-- All units. -/
def all : List TickUnit :=
  [.year, .month, .day, .hour, .minute, .second, .milli, .micro, .nano, .pico, .femto, .atto]

/-- How many of a finer unit a unit is reckoned at. -/
def scale (coarse fine : TickUnit) : Nat :=
  ((all.filter fun u => coarse.rank ≤ u.rank && u.rank < fine.rank).map step).foldl (· * ·) 1

/-- Units have a common one if they are reckoned at less than `2 ^ 56` of each other. -/
def areNear (u v : TickUnit) : Bool :=
  scale u v < 72057594037927936 && scale v u < 72057594037927936

/-- The finer of two units. -/
def finer (u v : TickUnit) : TickUnit := if u.rank < v.rank then v else u

/-- The number of decimals of a second that a unit needs. -/
def decimals : TickUnit → Nat
  | .milli => 3
  | .micro => 6
  | .nano => 9
  | .pico => 12
  | .femto => 15
  | .atto => 18
  | _ => 0

/-- The unit for a number of decimals of a second. -/
def ofDecimals (n : Nat) : TickUnit :=
  if n ≤ 3 then .milli
  else if n ≤ 6 then .micro
  else if n ≤ 9 then .nano
  else if n ≤ 12 then .pico
  else if n ≤ 15 then .femto
  else .atto

/-- Whether a unit is too fine for a time of day down to microseconds. -/
def isFine : TickUnit → Bool
  | .nano | .pico | .femto | .atto => true
  | _ => false

end TickUnit

/-- The signed machine word with the same low bits as an integer. -/
def wrapWord (n : Int) : Int := Int.bmod n 18446744073709551616

namespace Tick

/-- The word that stands for no time. -/
def missingWord : Int := -9223372036854775808

/-- The year of a counted number of months, as a machine word, and the months after its start. -/
def yearAndMonths (months : Int) : Int × Int := (wrapWord (1970 + months.fdiv 12), months.fmod 12)

/-- The first day of a counted moment, and the attoseconds since its start. -/
def parts (unit : TickUnit) (count : Int) : Int × Int :=
  match unit.length? with
  | some length =>
    let day := 86400 * attosPerSecond
    (epochDay + (count * length).fdiv day, (count * length).fmod day)
  | none =>
    let (year, month) := yearAndMonths (if unit = .year then count * 12 else count)
    (dayNumber year (month.toNat + 1) 1, 0)

/-- Attoseconds since the start of 1970. -/
def instant (unit : TickUnit) (count : Int) : Int :=
  let (day, attos) := parts unit count
  (day - epochDay) * (86400 * attosPerSecond) + attos

/-- The count of a moment in a unit that is at least as fine, as a machine word. -/
def recount (fine unit : TickUnit) (count : Int) : Int :=
  if unit = fine then count
  else
    match fine.length? with
    | some length => wrapWord ((instant unit count).fdiv length)
    | none => wrapWord (count * 12)

/-- A number with its sign, filled with zeros to a width that counts the sign. -/
def paddedSigned (width : Nat) (n : Int) : String :=
  if n < 0 then "-" ++ Text.paddedDecimal (width - 1) n.natAbs
  else Text.paddedDecimal width n.natAbs

/-- A counted moment with the parts that its unit needs. -/
def iso : Tick → String
  | .missing => "NaT"
  | .counted unit count =>
    let (number, attos) := parts unit count
    let (year, month, day) := ofDayNumber number
    let two := fun (n : Int) => Text.paddedDecimal 2 n.toNat
    let yearText := paddedSigned 4 year
    let monthText := yearText ++ "-" ++ Text.paddedDecimal 2 month
    let dayText := monthText ++ "-" ++ Text.paddedDecimal 2 day
    let second := attos.fdiv attosPerSecond
    let hourText := dayText ++ "T" ++ two (second.fdiv 3600)
    let minuteText := hourText ++ ":" ++ two ((second.fdiv 60).fmod 60)
    let secondText := minuteText ++ ":" ++ two (second.fmod 60)
    match unit with
    | .year => yearText
    | .month => monthText
    | .day => dayText
    | .hour => hourText
    | .minute => minuteText
    | .second => secondText
    | unit =>
      let decimals := Text.paddedDecimal 18 (attos.fmod attosPerSecond).toNat
      secondText ++ "." ++ String.ofList (decimals.toList.take unit.decimals)

/-- The form for display. The unit is named where the text does not tell it. -/
def name : Tick → String
  | .counted .hour count => "numpy.datetime64('" ++ (Tick.counted .hour count).iso ++ "','h')"
  | t => "numpy.datetime64('" ++ t.iso ++ "')"

/-- Compare the counts of two moments in a common unit; there is no answer if they have none. No
time compares with nothing. -/
def compare? (relation : Int → Int → Bool) : Tick → Tick → Option Bool
  | .counted u m, .counted v n =>
    if u.areNear v then
      let a := recount (u.finer v) u m
      let b := recount (u.finer v) v n
      some (a != missingWord && b != missingWord && relation a b)
    else none
  | _, _ => some false

/-- Whether two counted moments are the same. -/
def same? : Tick → Tick → Option Bool := compare? (· == ·)

/-- Add the unit of a moment to the unit of others before it, if there are any; none if the two are
too far apart. -/
def joinUnit (unit : Option TickUnit) : Tick → Option (Option TickUnit)
  | .missing => some unit
  | .counted v _ =>
    match unit with
    | none => some (some v)
    | some u => if u.areNear v then some (some (u.finer v)) else none

/-- A moment counted in a unit that is at least as fine. -/
def countedIn (unit : TickUnit) : Tick → Tick
  | .missing => .missing
  | .counted v n =>
    let word := recount unit v n
    if word = missingWord then .missing else .counted unit word

/-- The word that stands for a counted moment. -/
def word : Tick → Int
  | .missing => missingWord
  | .counted _ count => count

/-- The moment as a timestamp; what lies below nanoseconds is dropped. Years without four digits
have none. -/
def timestamp? : Tick → Option Timestamp
  | .missing => none
  | .counted unit count =>
    let (number, attos) := parts unit count
    let (year, month, day) := ofDayNumber number
    let second := (attos.fdiv attosPerSecond).toNat
    let nanos := ((attos.fmod attosPerSecond).fdiv 1000000000).toNat
    if 1 ≤ year && year ≤ 9999 then
      some {
        moment := ⟨⟨year.toNat, month, day⟩,
          ⟨second / 3600, second / 60 % 60, second % 60, nanos / 1000⟩, none⟩
        nanosecond := nanos % 1000 }
    else none

/-! ### Reading -/

/-- The outcome of reading a counted moment, and whether an offset from universal time was met on
the way. -/
structure Reading where
  tick : Option Tick
  zoned : Bool := false

/-- Two digits below a limit, and what follows them. -/
def twoDigits (limit : Nat) : List Char → Option (Nat × List Char)
  | a :: b :: rest =>
    if a.isDigit && b.isDigit then
      let n := (a.toNat - 48) * 10 + (b.toNat - 48)
      if n < limit then some (n, rest) else none
    else none
  | _ => none

/-- A day by its year, which is a machine word, and by its month and day. -/
structure ReadDay where
  year : Int
  month : Nat := 1
  day : Nat := 1

/-- The days from the start of 1970 to the start of a year, where the first product is a machine
word. -/
def daysToYear (year : Int) : Int :=
  let years := wrapWord (year - 1970)
  let days := wrapWord (years * 365)
  if 0 ≤ days then
    days + (years + 1).tdiv 4 - (years + 69).tdiv 100 + (years + 369).tdiv 400
  else days + (years - 2).tdiv 4 - (years - 30).tdiv 100 + (years - 30).tdiv 400

/-- The days from the start of 1970. -/
def ReadDay.days (d : ReadDay) : Int :=
  daysToYear d.year + (dayNumber d.year d.month d.day - dayNumber d.year 1 1)

/-- A moment as it was read: its unit, its day, and the attoseconds since midnight. -/
structure Parsed where
  unit : TickUnit
  date : ReadDay
  attos : Int := 0

/-- The count of a moment in its unit. -/
def Parsed.count (p : Parsed) : Int :=
  match p.unit.length? with
  | some length => (p.date.days * (86400 * attosPerSecond) + p.attos).fdiv length
  | none =>
    let years := p.date.year - 1970
    if p.unit = .year then years else years * 12 + ((p.date.month : Int) - 1)

/-- The moment that was read, its count reduced to a machine word. Neither a year nor a count may be
the word that stands for no time. -/
def Parsed.tick (p : Parsed) : Tick :=
  let word := wrapWord p.count
  if p.date.year = missingWord || word = missingWord then .missing else .counted p.unit word

/-- Blanks of ASCII. -/
def isAsciiBlank (c : Char) : Bool := c == ' ' || (9 ≤ c.toNat && c.toNat ≤ 13)

/-- Read an offset in hours and minutes as minutes, and what follows it. Only the hours may stand at
the end. -/
def readOffset (cs : List Char) : Option (Nat × List Char) := do
  let (hours, rest) ← twoDigits 24 cs
  if rest.isEmpty then return (hours * 60, [])
  let (minutes, rest) ← twoDigits 60 (if rest.head? = some ':' then rest.drop 1 else rest)
  return (hours * 60 + minutes, rest)

/-- Read what stands behind a time of day: a letter for universal time or an offset, and blanks.
Universal time is the local time less the offset. -/
def readBehind (p : Parsed) (cs : List Char) : Option Parsed := do
  let (minutes, rest) ← match cs with
    | 'Z' :: rest => some ((0 : Int), rest)
    | '+' :: rest => (readOffset rest).map fun (n, rest) => ((n : Int), rest)
    | '-' :: rest => (readOffset rest).map fun (n, rest) => (-(n : Int), rest)
    | rest => some (0, rest)
  if rest.all isAsciiBlank then some { p with attos := p.attos - minutes * 60 * attosPerSecond }
  else none

/-- Read the end of a moment. Whatever stands behind a time of day is taken for an offset. -/
def readZone (p : Parsed) (cs : List Char) : Reading :=
  if cs.isEmpty then { tick := some p.tick }
  else { tick := (readBehind p cs).map Parsed.tick, zoned := true }

/-- Read a time of day after a day. -/
def readClock (day : ReadDay) (cs : List Char) : Reading :=
  match twoDigits 24 cs with
  | none => { tick := none }
  | some (hour, cs) =>
    let hours : Int := hour * 3600
    match cs with
    | ':' :: cs =>
      match twoDigits 60 cs with
      | none => { tick := none }
      | some (minute, cs) =>
        let minutes := hours + minute * 60
        match cs with
        | ':' :: cs =>
          match twoDigits 60 cs with
          | none => { tick := none }
          | some (second, cs) =>
            let seconds := minutes + second
            match cs with
            | '.' :: cs =>
              let digits := (cs.takeWhile Char.isDigit).take 18
              let value := (Text.readDigits 0 digits).getD 0 * Nat.pow 10 (18 - digits.length)
              readZone ⟨.ofDecimals digits.length, day, seconds * attosPerSecond + value⟩
                (cs.drop digits.length)
            | cs => readZone ⟨.second, day, seconds * attosPerSecond⟩ cs
        | cs => readZone ⟨.minute, day, minutes * attosPerSecond⟩ cs
    | cs => readZone ⟨.hour, day, hours * attosPerSecond⟩ cs

/-- Read a month, a day and a time of day after a year. -/
def readAfterYear (year : Int) (cs : List Char) : Reading :=
  match cs with
  | [] => { tick := some (Parsed.tick ⟨.year, ⟨year, 1, 1⟩, 0⟩) }
  | '-' :: cs =>
    match twoDigits 13 cs with
    | none | some (0, _) => { tick := none }
    | some (month, []) => { tick := some (Parsed.tick ⟨.month, ⟨year, month, 1⟩, 0⟩) }
    | some (month, '-' :: cs) =>
      match twoDigits (daysOfMonth year month + 1) cs with
      | none | some (0, _) => { tick := none }
      | some (day, []) => { tick := some (Parsed.tick ⟨.day, ⟨year, month, day⟩, 0⟩) }
      | some (day, c :: cs) =>
        if c == 'T' || c == ' ' then readClock ⟨year, month, day⟩ cs else { tick := none }
    | some _ => { tick := none }
  | _ => { tick := none }

/-- Read a counted moment. A year before the first one has a sign in front of all else. -/
def read (s : String) : Reading :=
  if s = "" || (s.toList.map Char.toLower) == "nat".toList then { tick := some .missing }
  else
    let cs := s.toList.dropWhile isAsciiBlank
    let cs := match cs with
      | '-' :: cs | '+' :: cs => cs
      | cs => cs
    let digits := cs.takeWhile Char.isDigit
    if cs.isEmpty then { tick := none }
    else
      let year : Int := (Text.readDigits 0 digits).getD 0
      readAfterYear (wrapWord (if s.toList.head? = some '-' then -year else year))
        (cs.drop digits.length)

end Tick
end Relational

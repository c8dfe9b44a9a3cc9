import Relational.Text.Numeral

/-!
# Dates and times of day

Dates, times of day and their combination, with an optional offset from universal time in seconds.
Each has a standard written form and a form that names its parts.
-/

namespace Relational

/-- A calendar day. -/
structure Date where
  year : Nat
  month : Nat
  day : Nat
  deriving DecidableEq, Repr

/-- A time of day, down to microseconds. -/
structure ClockTime where
  hour : Nat
  minute : Nat
  second : Nat
  microsecond : Nat
  deriving DecidableEq, Repr

/-- The parts of a date, from the year down. -/
def Date.parts (d : Date) : List Nat := [d.year, d.month, d.day]

/-- The parts of a time of day, from the hour down. -/
def ClockTime.parts (t : ClockTime) : List Nat := [t.hour, t.minute, t.second, t.microsecond]

/-- A time of day with an optional offset from universal time. -/
structure ZonedTime where
  clock : ClockTime
  offset : Option Int
  deriving DecidableEq, Repr

/-- A day and a time of day with an optional offset from universal time. -/
structure DateTime where
  date : Date
  clock : ClockTime
  offset : Option Int
  deriving DecidableEq, Repr

/-- Year, month and day, joined by hyphens. -/
def Date.iso (d : Date) : String :=
  Text.paddedDecimal 4 d.year ++ "-" ++ Text.paddedDecimal 2 d.month ++ "-" ++
    Text.paddedDecimal 2 d.day

/-- Hours, minutes and seconds, and microseconds unless they are zero. -/
def ClockTime.iso (t : ClockTime) : String :=
  Text.paddedDecimal 2 t.hour ++ ":" ++ Text.paddedDecimal 2 t.minute ++ ":" ++
    Text.paddedDecimal 2 t.second ++
    (if t.microsecond = 0 then "" else "." ++ Text.paddedDecimal 6 t.microsecond)

/-- A signed offset in hours and minutes, and seconds unless they are zero. -/
def offsetIso (offset : Int) : String :=
  let n := offset.natAbs
  (if offset < 0 then "-" else "+") ++ Text.paddedDecimal 2 (n / 3600) ++ ":" ++
    Text.paddedDecimal 2 (n / 60 % 60) ++
    (if n % 60 = 0 then "" else ":" ++ Text.paddedDecimal 2 (n % 60))

/-- The name of the zone with the given offset. -/
def zoneName (offset : Int) : String := if offset = 0 then "UTC" else "UTC" ++ offsetIso offset

/-- The time of day followed by its offset, if it has one. -/
def ZonedTime.iso (t : ZonedTime) : String := t.clock.iso ++ (t.offset.map offsetIso).getD ""

/-- The day and the time of day with the given separator between them. -/
def DateTime.iso (separator : String) (t : DateTime) : String :=
  t.date.iso ++ separator ++ t.clock.iso ++ (t.offset.map offsetIso).getD ""

/-- The arguments that name a time of day: seconds and microseconds only where needed. -/
def ClockTime.nameParts (t : ClockTime) : List Nat :=
  [t.hour, t.minute] ++
    (if t.microsecond ≠ 0 then [t.second, t.microsecond]
     else if t.second ≠ 0 then [t.second] else [])

/-- The form that names an offset from universal time. -/
def offsetName (offset : Int) : String :=
  if offset = 0 then "datetime.timezone.utc"
  else
    let days := offset.fdiv 86400
    let seconds := offset.fmod 86400
    let arguments :=
      (if days = 0 then [] else ["days=" ++ Text.signedDecimal days]) ++
      (if seconds = 0 then [] else ["seconds=" ++ Text.signedDecimal seconds])
    "datetime.timezone(datetime.timedelta(" ++ Text.joinWith ", " arguments ++ "))"

/-- A name applied to numbers and, if there is one, an offset. -/
def calendarName (name : String) (parts : List Nat) (offset : Option Int) : String :=
  let zone := match offset with
    | none => []
    | some z => ["tzinfo=" ++ offsetName z]
  name ++ "(" ++ Text.joinWith ", " (parts.map Text.decimal ++ zone) ++ ")"

/-- The form that names the parts of a day. -/
def Date.name (d : Date) : String := calendarName "datetime.date" d.parts none

/-- The form that names the parts of a time of day. -/
def ZonedTime.name (t : ZonedTime) : String :=
  calendarName "datetime.time" t.clock.nameParts t.offset

/-- The form that names the parts of a day and a time of day. -/
def DateTime.name (t : DateTime) : String :=
  calendarName "datetime.datetime" (t.date.parts ++ t.clock.nameParts)
    t.offset

/-- The number of days from the first of March of year zero to a day of any year. -/
def dayNumber (year : Int) (month day : Nat) : Int :=
  let y : Int := if month ≤ 2 then year - 1 else year
  let m : Int := if month ≤ 2 then (month : Int) + 9 else (month : Int) - 3
  365 * y + y.fdiv 4 - y.fdiv 100 + y.fdiv 400 + (153 * m + 2).fdiv 5 + ((day : Int) - 1)

/-- The number of days from the first of March of year zero. -/
def Date.dayNumber (d : Date) : Int := Relational.dayNumber d.year d.month d.day

/-- Year, month and day of a day given by its number. -/
def ofDayNumber (n : Int) : Int × Nat × Nat :=
  let era := n.fdiv 146097
  let day := n.fmod 146097
  let year := (day - day.fdiv 1460 + day.fdiv 36524 - day.fdiv 146096).fdiv 365
  let rest := day - (365 * year + year.fdiv 4 - year.fdiv 100)
  let month := (5 * rest + 2).fdiv 153
  let dayOfMonth := rest - (153 * month + 2).fdiv 5 + 1
  let (month, next) := if month < 10 then (month + 3, 0) else (month - 9, 1)
  (year + era * 400 + next, month.toNat, dayOfMonth.toNat)

/-- Whether a year has a leap day. -/
def isLeapYear (year : Int) : Bool := year % 4 == 0 && (year % 100 != 0 || year % 400 == 0)

/-- The number of days of a month. -/
def daysOfMonth (year : Int) (month : Nat) : Nat :=
  if month = 2 then if isLeapYear year then 29 else 28
  else if month ∈ [4, 6, 9, 11] then 30 else 31

/-- Whether the parts name a day of the years 1 to 9999. -/
def Date.isValid (d : Date) : Bool :=
  1 ≤ d.year && d.year ≤ 9999 && 1 ≤ d.month && d.month ≤ 12 && 1 ≤ d.day &&
    d.day ≤ daysOfMonth d.year d.month

/-- Whether the parts name a time of day. -/
def ClockTime.isValid (t : ClockTime) : Bool :=
  t.hour < 24 && t.minute < 60 && t.second < 60 && t.microsecond < 1000000

/-- Whether an offset is less than a day. -/
def isValidOffset (offset : Option Int) : Bool := offset.all fun z => -86400 < z && z < 86400

/-- Microseconds since midnight. -/
def ClockTime.microseconds (t : ClockTime) : Nat :=
  ((t.hour * 60 + t.minute) * 60 + t.second) * 1000000 + t.microsecond

/-- Microseconds of universal time since the first of March of year zero. -/
def DateTime.instant (t : DateTime) : Int :=
  (t.date.dayNumber * 86400 - t.offset.getD 0) * 1000000 + t.clock.microseconds

/-- Equality of moments: both have an offset or neither has, and the moments agree. -/
def DateTime.same (a b : DateTime) : Bool :=
  a.offset.isSome == b.offset.isSome && a.instant == b.instant

/-- Equality of times of day: both have an offset or neither has, and the times agree in
universal time. -/
def ZonedTime.same (a b : ZonedTime) : Bool :=
  a.offset.isSome == b.offset.isSome &&
    (a.clock.microseconds : Int) - a.offset.getD 0 * 1000000 ==
      (b.clock.microseconds : Int) - b.offset.getD 0 * 1000000

/-- Days, seconds and microseconds of a span given in days and microseconds. -/
def spanParts (days microseconds : Int) : List Int :=
  [days + microseconds.fdiv 86400000000, (microseconds.fmod 86400000000).fdiv 1000000,
    microseconds.fmod 1000000]

/-- The number of a day, counted from the first day of year one as one. -/
def Date.ordinal (d : Date) : Int := d.dayNumber - 305

/-! ### Timestamps -/

/-- A moment down to nanoseconds: those beyond the microseconds of `moment` are kept apart. -/
structure Timestamp where
  moment : DateTime
  nanosecond : Nat := 0
  deriving DecidableEq, Repr

namespace Timestamp

/-- The time of day with nanoseconds unless there are none beyond the microseconds. -/
def clockIso (t : Timestamp) : String :=
  if t.nanosecond = 0 then t.moment.clock.iso
  else
    { t.moment.clock with microsecond := 0 }.iso ++ "." ++
      Text.paddedDecimal 9 (t.moment.clock.microsecond * 1000 + t.nanosecond)

/-- The day and the time of day with a blank between them, and the offset if there is one. -/
def iso (t : Timestamp) : String :=
  t.moment.date.iso ++ " " ++ t.clockIso ++ (t.moment.offset.map offsetIso).getD ""

/-- The form that names a timestamp; its offset is written without colons, followed by the zone. -/
def name (t : Timestamp) : String :=
  let zone := match t.moment.offset with
    | none => "'"
    | some z =>
      String.ofList ((offsetIso z).toList.filter (· ≠ ':')) ++ "', tz='" ++ zoneName z ++ "'"
  "Timestamp('" ++ t.moment.date.iso ++ " " ++ t.clockIso ++ zone ++ ")"

/-- Nanoseconds of universal time since the first of March of year zero. -/
def instant (t : Timestamp) : Int := t.moment.instant * 1000 + t.nanosecond

/-- Equality of timestamps: both have an offset or neither has, and the moments agree. -/
def same (a b : Timestamp) : Bool :=
  a.moment.offset.isSome == b.moment.offset.isSome && a.instant == b.instant

/-- Nanoseconds since the start of 1970. -/
def count (t : Timestamp) : Int :=
  t.instant - Relational.dayNumber 1970 1 1 * 86400000000000

/-- Whether the nanoseconds since the start of 1970 fit a machine word. The least word stands for no
time. -/
def fits (t : Timestamp) : Bool :=
  -9223372036854775808 < t.count && t.count ≤ 9223372036854775807

end Timestamp
end Relational

/-!
# Timestamps

A configuration may hold a date, or a date with a time of day, and with the time of day its zone. All are kept as
numbers and checked against the calendar.
-/

namespace GuideSite

/-- A time of day, to the microsecond. -/
structure Clock where
  hour : Nat
  minute : Nat
  second : Nat
  microsecond : Nat
  deriving DecidableEq, Repr

/-- A zone by the name it was given and the seconds that it is ahead of universal time. -/
structure Zone where
  name : String
  ahead : Int
  deriving DecidableEq, Repr

/-- A date, with the time of day if one is given and the zone of that. -/
structure Timestamp where
  year : Nat
  month : Nat
  day : Nat
  clock : Option Clock
  zone : Option Zone := none
  deriving DecidableEq, Repr

/-! ## Durations and zones -/

/-- A number with zeros before it, up to the width. -/
def padded (width n : Nat) : String :=
  let digits := Nat.toDigits 10 n
  String.ofList (List.replicate (width - digits.length) '0' ++ digits)

/-- The seconds of a day. -/
def daySeconds : Int := 86400

/-- A duration in quoted form: whole days, which may be negative, and the seconds beyond them. -/
def quotedDuration (seconds : Int) : String :=
  let days := seconds / daySeconds
  let rest := seconds % daySeconds
  let inside :=
    if days = 0 ∧ rest = 0 then "0"
    else if rest = 0 then s!"days={days}"
    else if days = 0 then s!"seconds={rest}"
    else s!"days={days}, seconds={rest}"
  s!"datetime.timedelta({inside})"

/-- The hours and minutes that a zone is ahead of universal time, with their sign. -/
def Zone.text (z : Zone) : String :=
  let minutes := z.ahead.natAbs / 60
  (if z.ahead < 0 then "-" else "+") ++ s!"{padded 2 (minutes / 60)}:{padded 2 (minutes % 60)}"

/-- The zone as it stands inside a quoted timestamp. -/
def Zone.quoted (z : Zone) : String :=
  s!"datetime.timezone({quotedDuration z.ahead}, '{z.name}')"

namespace Timestamp

/-! ## The calendar -/

/-- A reason why numbers name no point in time. -/
inductive Fault
  | year (given : Nat)
  | month
  | day
  | hour
  | minute
  | second
  /-- The zone is a day or more away from universal time. -/
  | zone (ahead : Int)
  | beyondCalendar
  deriving DecidableEq, Repr

/-- What a fault says. -/
def Fault.message : Fault → String
  | .year given => s!"year {given} is out of range"
  | .month => "month must be in 1..12"
  | .day => "day is out of range for month"
  | .hour => "hour must be in 0..23"
  | .minute => "minute must be in 0..59"
  | .second => "second must be in 0..59"
  | .zone ahead => "offset must be a timedelta strictly between -timedelta(hours=24) and timedelta(hours=24), not " ++
    quotedDuration ahead ++ "."
  | .beyondCalendar => "date value out of range"

/-- A leap year of the Gregorian calendar. -/
def isLeap (year : Nat) : Bool :=
  year % 4 == 0 && (year % 100 != 0 || year % 400 == 0)

/-- The length of a month. -/
def daysIn (year month : Nat) : Nat :=
  if month = 2 then if isLeap year then 29 else 28
  else if month = 4 ∨ month = 6 ∨ month = 9 ∨ month = 11 then 30
  else 31

/-- The timestamp itself if the calendar and the clock know it. -/
def check (t : Timestamp) : Except Fault Timestamp :=
  if t.zone.any fun z => daySeconds ≤ z.ahead.natAbs then .error (.zone ((t.zone.map (·.ahead)).getD 0))
  else if t.year = 0 ∨ 9999 < t.year then .error (.year t.year)
  else if t.month = 0 ∨ 12 < t.month then .error .month
  else if t.day = 0 ∨ daysIn t.year t.month < t.day then .error .day
  else match t.clock with
    | none => .ok t
    | some c =>
      if 23 < c.hour then .error .hour
      else if 59 < c.minute then .error .minute
      else if 59 < c.second then .error .second
      else .ok t

/-! ## Order in time -/

/-- The day after a day, as year, month and day. -/
def dayAfter (year month day : Nat) : Nat × Nat × Nat :=
  if day < daysIn year month then (year, month, day + 1)
  else if month < 12 then (year, month + 1, 1)
  else (year + 1, 1, 1)

/-- The timestamp one second later, as far as the calendar goes. A date stays as it is. -/
def nextSecond (t : Timestamp) : Except Fault Timestamp :=
  match t.clock with
  | none => .ok t
  | some c =>
    let total := 3600 * c.hour + 60 * c.minute + c.second + 1
    let clock : Clock := ⟨total / 3600 % 24, total % 3600 / 60, total % 60, c.microsecond⟩
    if total < 86400 then .ok { t with clock := some clock }
    else
      let (year, month, day) := dayAfter t.year t.month t.day
      if 9999 < year then .error .beyondCalendar else .ok { t with year, month, day, clock := some clock }

/-- The days from the start of the calendar to a day. -/
def dayNumber (year month day : Nat) : Nat :=
  let past := year - 1
  let months := (List.range (month - 1)).map fun m => daysIn year (m + 1)
  365 * past + past / 4 - past / 100 + past / 400 + months.foldl (· + ·) 0 + day

/-- The microseconds of universal time from the start of the calendar; without a zone the clock is taken to show
universal time. -/
def instant (t : Timestamp) : Int :=
  let seconds : Int := match t.clock with
    | none => 0
    | some c => 3600 * c.hour + 60 * c.minute + c.second
  let ahead := (t.zone.map (·.ahead)).getD 0
  let microsecond := (t.clock.map (·.microsecond)).getD 0
  (daySeconds * dayNumber t.year t.month t.day + seconds - ahead) * 1000000 + microsecond

/-! ## Text -/

/-- Year, month and day; then, after a space, the time of day, with the microseconds if there are any, and the zone. -/
def text (t : Timestamp) : String :=
  let date := s!"{padded 4 t.year}-{padded 2 t.month}-{padded 2 t.day}"
  match t.clock with
  | none => date
  | some c =>
    let time := s!"{date} {padded 2 c.hour}:{padded 2 c.minute}:{padded 2 c.second}"
    (if c.microsecond = 0 then time else s!"{time}.{padded 6 c.microsecond}") ++ (t.zone.map Zone.text).getD ""

/-- The timestamp as it stands inside a quoted value. -/
def quoted (t : Timestamp) : String :=
  match t.clock with
  | none => s!"datetime.date({t.year}, {t.month}, {t.day})"
  | some c =>
    let tail :=
      if c.microsecond ≠ 0 then s!", {c.second}, {c.microsecond}"
      else if c.second ≠ 0 then s!", {c.second}"
      else ""
    let zone := (t.zone.map fun z => ", tzinfo=" ++ z.quoted).getD ""
    s!"datetime.datetime({t.year}, {t.month}, {t.day}, {c.hour}, {c.minute}{tail}{zone})"

end Timestamp

end GuideSite

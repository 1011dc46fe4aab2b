/-!
# Dates and moments

* `Date` -- a day of the calendar; `Moment` -- a day with a time, to the microsecond, and perhaps
  with a zone;
* `Date.check`, `Moment.check` -- the first part of a date or time that is out of range;
* `Moment.same` -- whether two moments are one: those with a zone by their universal time;
* `Date.iso`, `Moment.iso` -- the text of a date or a moment.
-/

namespace SchemaRecords.Document

/-! ## 1. Calendar -/

/-- A day of the calendar. -/
structure Date where
  year : Nat
  month : Nat
  day : Nat
  deriving DecidableEq, Repr

/-- A day and a time of the day, and by how many minutes its zone is ahead of universal time, if it
    has one. -/
structure Moment where
  date : Date
  hour : Nat
  minute : Nat
  second : Nat
  micro : Nat
  zone : Option Int
  deriving DecidableEq, Repr

/-- Whether the year has a day more. -/
def isLeapYear (y : Nat) : Bool := y % 4 == 0 && (y % 100 != 0 || y % 400 == 0)

/-- The number of days of a month. -/
def daysIn (year month : Nat) : Nat :=
  if month == 2 then (if isLeapYear year then 29 else 28)
  else if month == 4 || month == 6 || month == 9 || month == 11 then 30
  else 31

/-- The minutes of a day. -/
def minutesOfDay : Nat := 1440

/-- A span of minutes, spelled out in whole days and the seconds of one more. -/
def spanLiteral (minutes : Int) : String :=
  let days := minutes / minutesOfDay
  let seconds := minutes % minutesOfDay * 60
  let parts := if seconds == 0 then s!"days={days}"
    else if days == 0 then s!"seconds={seconds}"
    else s!"days={days}, seconds={seconds}"
  s!"datetime.timedelta({parts})"

/-- A part of a date or time that is out of range. -/
inductive CalendarFault where
  | zone (minutes : Int)
  | year (value : Nat)
  | month
  | day
  | hour
  | minute
  | second
  deriving DecidableEq, Repr

/-- The words for a part that is out of range. -/
def CalendarFault.message : CalendarFault → String
  | .zone minutes =>
      "offset must be a timedelta strictly between -timedelta(hours=24) and timedelta(hours=24), " ++
        s!"not {spanLiteral minutes}."
  | .year value => s!"year {value} is out of range"
  | .month => "month must be in 1..12"
  | .day => "day is out of range for month"
  | .hour => "hour must be in 0..23"
  | .minute => "minute must be in 0..59"
  | .second => "second must be in 0..59"

/-- The date, unless a part of it is out of range. -/
def Date.check (d : Date) : Except CalendarFault Date :=
  if d.year == 0 then .error (.year d.year)
  else if d.month == 0 || 12 < d.month then .error .month
  else if d.day == 0 || daysIn d.year d.month < d.day then .error .day
  else .ok d

/-- Checks that a zone is less than a day from universal time. -/
def checkZone : Option Int → Except CalendarFault Unit
  | none => .ok ()
  | some minutes => if minutes.natAbs < minutesOfDay then .ok () else .error (.zone minutes)

/-- The moment, unless its zone or a part of it is out of range. -/
def Moment.check (m : Moment) : Except CalendarFault Moment := do
  checkZone m.zone
  let _ ← m.date.check
  if 23 < m.hour then .error .hour
  else if 59 < m.minute then .error .minute
  else if 59 < m.second then .error .second
  else .ok m

/-! ## 2. Universal time -/

/-- The number of a day, counted from the first one of the calendar. -/
def Date.number (d : Date) : Nat :=
  let years := d.year - 1
  let before := (List.range (d.month - 1)).foldl
    (fun days month => days + daysIn d.year (month + 1)) 0
  years * 365 + years / 4 - years / 100 + years / 400 + before + d.day

/-- The number of the minute in which a moment lies, by the clocks of its zone or, if it has one, by
    universal time. -/
def Moment.minuteNumber (m : Moment) : Int :=
  (m.date.number * 24 + m.hour) * 60 + m.minute - m.zone.getD 0

/-- Whether two moments are one. Without a zone, and where one has none, they have to be the same;
    with zones they are one at the same universal time. -/
def Moment.same (m n : Moment) : Bool :=
  if m.zone.isSome && n.zone.isSome then
    m.minuteNumber == n.minuteNumber && m.second == n.second && m.micro == n.micro
  else m == n

/-! ## 3. Text -/

/-- A number in at least `width` digits. -/
def padded (width n : Nat) : String :=
  let digits := Nat.toDigits 10 n
  String.ofList (List.replicate (width - digits.length) '0' ++ digits)

/-- The text of a date. -/
def Date.iso (d : Date) : String :=
  padded 4 d.year ++ "-" ++ padded 2 d.month ++ "-" ++ padded 2 d.day

/-- The text of a zone: a sign, the hours and the minutes. -/
def zoneText (minutes : Int) : String :=
  (if minutes < 0 then "-" else "+") ++ padded 2 (minutes.natAbs / 60) ++ ":" ++
    padded 2 (minutes.natAbs % 60)

/-- The text of a moment; a fraction has six digits and is left out when it is zero. -/
def Moment.iso (m : Moment) : String :=
  let time := padded 2 m.hour ++ ":" ++ padded 2 m.minute ++ ":" ++ padded 2 m.second
  let fraction := if m.micro == 0 then "" else "." ++ padded 6 m.micro
  let zone := match m.zone with
    | none => ""
    | some minutes => zoneText minutes
  m.date.iso ++ " " ++ time ++ fraction ++ zone

end SchemaRecords.Document

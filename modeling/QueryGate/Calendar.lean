import QueryGate.Number.Double

/-!
# Dates, times and durations

Dates are of the proleptic Gregorian calendar. A time of day may carry an offset from universal
time, in seconds. Durations are whole microseconds.

All are written in the ISO forms, with six digits of a second's fraction where it is not zero.
Payloads differ from log lines in the offset only: they write universal time as `Z`, and an offset
in hours and minutes without its seconds.
-/

namespace QueryGate.Calendar

open QueryGate.Number (padded zeros)

/-- A day of the calendar. -/
structure Date where
  year : Nat
  month : Nat
  day : Nat
  deriving DecidableEq, Repr

/-- A time of day, with its offset from universal time if it has one. -/
structure ClockTime where
  hour : Nat
  minute : Nat
  second : Nat
  microsecond : Nat
  offset : Option Int
  deriving DecidableEq, Repr

structure DateTime where
  date : Date
  time : ClockTime
  deriving DecidableEq, Repr

/-- A span of time. -/
structure Duration where
  microseconds : Int
  deriving DecidableEq, Repr

def microsPerSecond : Int := 1000000

def microsPerDay : Int := 86400 * microsPerSecond

/-- The number of days from the first of January 1970. Years are counted from March, so that the
leap day is the last of its year. -/
def Date.dayNumber (d : Date) : Int :=
  let year : Int := if d.month ≤ 2 then (d.year : Int) - 1 else d.year
  let era := Int.fdiv year 400
  let yearOfEra := year - era * 400
  let monthFromMarch : Int := if d.month ≤ 2 then (d.month : Int) + 9 else (d.month : Int) - 3
  let dayOfYear := (153 * monthFromMarch + 2) / 5 + d.day - 1
  let dayOfEra := yearOfEra * 365 + yearOfEra / 4 - yearOfEra / 100 + dayOfYear
  era * 146097 + dayOfEra - 719468

/-- The day with a given number; the inverse of `Date.dayNumber`. -/
def Date.ofDayNumber (n : Int) : Date :=
  let shifted := n + 719468
  let era := Int.fdiv shifted 146097
  let dayOfEra := shifted - era * 146097
  let yearOfEra := (dayOfEra - dayOfEra / 1460 + dayOfEra / 36524 - dayOfEra / 146096) / 365
  let dayOfYear := dayOfEra - (365 * yearOfEra + yearOfEra / 4 - yearOfEra / 100)
  let monthFromMarch := (5 * dayOfYear + 2) / 153
  let month := if monthFromMarch < 10 then monthFromMarch + 3 else monthFromMarch - 9
  let year := yearOfEra + era * 400 + (if month ≤ 2 then 1 else 0)
  ⟨year.toNat, month.toNat, (dayOfYear - (153 * monthFromMarch + 2) / 5 + 1).toNat⟩

/-- The year of the day with a given number, which may lie before the first year. The calendar
repeats itself after 146097 days, which are 400 years. -/
def yearOfDayNumber (n : Int) : Int :=
  let cycles := Int.fdiv n 146097
  (Date.ofDayNumber (n - 146097 * cycles)).year + 400 * cycles

def ClockTime.sinceMidnight (t : ClockTime) : Int :=
  ((t.hour * 60 + t.minute) * 60 + t.second : Nat) * microsPerSecond + t.microsecond

/-- Microseconds since the start of 1970, leaving offsets aside. -/
def DateTime.sinceEpoch (t : DateTime) : Int :=
  t.date.dayNumber * microsPerDay + t.time.sinceMidnight

/-- The day and time, without offset, so many milliseconds after the start of 1970. -/
def DateTime.ofEpochMillis (millis : Int) : DateTime :=
  let ofDay := Int.fmod millis 86400000
  { date := Date.ofDayNumber (Int.fdiv millis 86400000)
    time :=
      { hour := (ofDay / 3600000).toNat
        minute := (ofDay / 60000 % 60).toNat
        second := (ofDay / 1000 % 60).toNat
        microsecond := (ofDay % 1000 * 1000).toNat
        offset := none } }

/-- The span from one time to another, leaving offsets aside. -/
def DateTime.elapsed (start finish : DateTime) : Duration :=
  ⟨finish.sinceEpoch - start.sinceEpoch⟩

def Duration.ofParts (days seconds microseconds : Int) : Duration :=
  ⟨days * microsPerDay + seconds * microsPerSecond + microseconds⟩

/-- The number of whole days, rounded down; the rest of the span is not negative. -/
def Duration.days (d : Duration) : Int := Int.fdiv d.microseconds microsPerDay

/-- The whole seconds of the rest after the days. -/
def Duration.secondsOfDay (d : Duration) : Nat :=
  (Int.fmod d.microseconds microsPerDay / microsPerSecond).toNat

/-- The microseconds of the rest after the seconds. -/
def Duration.microsOfSecond (d : Duration) : Nat :=
  (Int.fmod d.microseconds microsPerSecond).toNat

/-- `YYYY-MM-DD`. -/
def Date.iso (d : Date) : String :=
  padded 4 d.year ++ "-" ++ padded 2 d.month ++ "-" ++ padded 2 d.day

/-- `HH:MM:SS`, with the fraction if it is not zero. -/
def ClockTime.isoBody (t : ClockTime) : String :=
  padded 2 t.hour ++ ":" ++ padded 2 t.minute ++ ":" ++ padded 2 t.second ++
    (if t.microsecond = 0 then "" else "." ++ padded 6 t.microsecond)

def offsetMinutes (seconds : Int) : String :=
  let n := seconds.natAbs
  (if seconds < 0 then "-" else "+") ++ padded 2 (n / 3600) ++ ":" ++ padded 2 (n / 60 % 60)

def offsetText (seconds : Int) : String :=
  let rest := seconds.natAbs % 60
  offsetMinutes seconds ++ (if rest = 0 then "" else ":" ++ padded 2 rest)

def payloadOffsetText (seconds : Int) : String :=
  if seconds = 0 then "Z" else offsetMinutes seconds

def ClockTime.iso (t : ClockTime) : String := t.isoBody ++ (t.offset.map offsetText).getD ""

def ClockTime.payloadText (t : ClockTime) : String :=
  t.isoBody ++ (t.offset.map payloadOffsetText).getD ""

/-- The ISO form of a day and time, with a separator between them. -/
def DateTime.iso (separator : String) (t : DateTime) : String :=
  t.date.iso ++ separator ++ t.time.iso

/-- The form of a day and time in payloads. -/
def DateTime.payloadText (t : DateTime) : String := t.date.iso ++ "T" ++ t.time.payloadText

/-- A span of time as payloads write it, in the ISO form with years of 365 days. -/
def Duration.payloadText (d : Duration) : String :=
  let n := d.microseconds.natAbs
  let days := n / 86400000000
  let seconds := n / 1000000 % 86400
  let micros := n % 1000000
  let part (count : Nat) (unit : String) : String :=
    if count = 0 then "" else Nat.repr count ++ unit
  let fraction :=
    if micros = 0 then ""
    else "." ++ String.ofList ((padded 6 micros).toList.reverse.dropWhile (· == '0')).reverse
  let secondsPart :=
    if seconds % 60 = 0 && micros = 0 then "" else Nat.repr (seconds % 60) ++ fraction ++ "S"
  let timePart :=
    if seconds = 0 && micros = 0 then (if days = 0 then "T0S" else "")
    else "T" ++ part (seconds / 3600) "H" ++ part (seconds / 60 % 60) "M" ++ secondsPart
  (if d.microseconds < 0 then "-" else "") ++ "P" ++ part (days / 365) "Y" ++
    part (days % 365) "D" ++ timePart

/-- A span of time in words: the days, and then hours, minutes and seconds. -/
def Duration.words (d : Duration) : String :=
  let seconds := d.secondsOfDay
  let clock := Nat.repr (seconds / 3600) ++ ":" ++ padded 2 (seconds / 60 % 60) ++ ":" ++
    padded 2 (seconds % 60) ++
    (if d.microsOfSecond = 0 then "" else "." ++ padded 6 d.microsOfSecond)
  if d.days = 0 then clock
  else toString d.days ++ (if d.days.natAbs = 1 then " day, " else " days, ") ++ clock

end QueryGate.Calendar

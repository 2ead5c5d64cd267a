/-
What a text tells of a time, field by field, and the moment that the fields
name. A field told twice has to be told the same, and fields that are not
needed to name the moment have to agree with it.
-/
import MetaGraph.Time.Calendar
import MetaGraph.Time.Format

namespace MetaGraph.Time

/-- The least and the greatest value of a field. -/
def Field.range : Field → Int × Int
  | year | weekYear | offset => (-2147483648, 2147483647)
  | century => (0, 2147483647)
  | yearOfCentury | weekYearOfCentury => (0, 99)
  | quarter => (1, 4)
  | month => (1, 12)
  | day => (1, 31)
  | dayOfYear => (1, 366)
  | sundayWeek | mondayWeek => (0, 53)
  | week => (1, 53)
  | weekday => (0, 6)
  | half => (0, 1)
  | hourOfHalf => (0, 11)
  | minute => (0, 59)
  | second => (0, 60)
  | nanosecond => (0, 999999999)
  | timestamp => (-9223372036854775808, 9223372036854775807)

/-- The values of the fields that are told. -/
abbrev Fields := List (Field × Int)

namespace Fields

def get? (fs : Fields) (f : Field) : Option Int := List.lookup f fs

/-- The value of a field that is never negative. -/
def nat? (fs : Fields) (f : Field) : Option Nat := (fs.get? f).map Int.toNat

/-- Tells a field. It has to be in range and must not have been told otherwise. -/
def set (fs : Fields) (f : Field) (v : Int) : Option Fields :=
  if f.range.1 ≤ v ∧ v ≤ f.range.2 then
    match fs.get? f with
    | some old => if old = v then some fs else none
    | none => some ((f, v) :: fs)
  else none

/-- Tells the hour of the day. -/
def setHour (fs : Fields) (h : Int) : Option Fields := do
  if h < 0 ∨ 23 < h then none
  else (← fs.set .half (h / 12)).set .hourOfHalf (h % 12)

/-- Tells what a number means. -/
def setMeaning (fs : Fields) (v : Int) : Meaning → Option Fields
  | .field f => fs.set f v
  | .hour => fs.setHour v
  | .hourOfClock => if v < 1 ∨ 12 < v then none else fs.set .hourOfHalf (v % 12)
  | .fromSunday => if v < 0 ∨ 6 < v then none else fs.set .weekday ((v + 6) % 7)
  | .fromMonday => if v < 1 ∨ 7 < v then none else fs.set .weekday (v - 1)

/-- Why fields name no day: some are missing, or they contradict each other. -/
inductive Shortfall where
  | missing
  | contradiction
deriving DecidableEq, Repr

/-! ## The day -/

/-- The year that a full year, a century and the rest of a year tell, if any does. -/
def yearOf (full century rest : Option Int) : Except Shortfall (Option Int) :=
  match full, century, rest with
  | y, none, none => .ok y
  | some y, q, r =>
    if 0 ≤ y ∧ q.getD (y / 100) = y / 100 ∧ r.getD (y % 100) = y % 100 then .ok (some y)
    else .error .contradiction
  | none, some q, some r => .ok (some (q * 100 + r))
  | none, none, some r => .ok (some (r + if r < 70 then 2000 else 1900))
  | none, some _, none => .error .missing

/-- Whether what is told of a field agrees with its value. -/
def agrees (fs : Fields) (f : Field) (v : Int) : Bool := (fs.get? f).getD v == v

/-- The same for a part of a year that a negative year does not have. -/
def agreesOnPart (fs : Fields) (f : Field) (year part : Int) : Bool :=
  if 0 ≤ year then fs.agrees f part else (fs.get? f).isNone

/-- Whether a day agrees with everything that is told. -/
def agreesOnDate (fs : Fields) (d : Date) : Bool :=
  let (weekYear, week) := d.isoWeek
  fs.agrees .year d.year && fs.agreesOnPart .century d.year (d.year / 100) &&
    fs.agreesOnPart .yearOfCentury d.year (d.year % 100) &&
    fs.agrees .month d.month && fs.agrees .day d.day &&
    fs.agrees .weekYear weekYear &&
    fs.agreesOnPart .weekYearOfCentury weekYear (weekYear % 100) &&
    fs.agrees .week week && fs.agrees .weekday d.weekday &&
    fs.agrees .dayOfYear d.ordinal &&
    fs.agrees .sundayWeek (d.weekFrom 6) && fs.agrees .mondayWeek (d.weekFrom 0) &&
    fs.agrees .quarter d.quarter

/-- The day that is named by what is told: by month and day, by the day of the year,
or by a week and its weekday, whichever comes first. The inner option is none for a
day that does not exist. -/
def namedDate? (fs : Fields) (year weekYear : Option Int) : Option (Option Date) :=
  match year, fs.nat? .month, fs.nat? .day, fs.nat? .dayOfYear with
  | some y, some m, some d, _ => some (Date.ofMonthDay? y m d)
  | some y, _, _, some n => some (Date.ofOrdinal? y n)
  | year, _, _, _ =>
    match year, fs.nat? .sundayWeek, fs.nat? .mondayWeek, fs.nat? .weekday with
    | some y, some w, _, some d => some (Date.ofWeek? y w d 6)
    | some y, _, some w, some d => some (Date.ofWeek? y w d 0)
    | _, _, _, weekday =>
      match weekYear, fs.nat? .week, weekday with
      | some y, some w, some d => some (Date.ofIsoWeek? y w d)
      | _, _, _ => none

/-- The day, if it is named and agrees with everything told. -/
def date (fs : Fields) : Except Shortfall Date := do
  let year ← yearOf (fs.get? .year) (fs.get? .century) (fs.get? .yearOfCentury)
  let weekYear ← yearOf (fs.get? .weekYear) none (fs.get? .weekYearOfCentury)
  match fs.namedDate? year weekYear with
  | none => throw .missing
  | some none => throw .contradiction
  | some (some d) => if fs.agreesOnDate d then pure d else throw .contradiction

/-! ## The time of day -/

/-- A time of day: seconds since midnight, a leap second counting as the one before
it, and whether it is a leap second. Seconds may be missing, but not below a fraction. -/
def timeOfDay? (fs : Fields) : Option (Int × Bool) := do
  let half ← fs.get? .half
  let hour ← fs.get? .hourOfHalf
  let minute ← fs.get? .minute
  if (fs.get? .nanosecond).isSome ∧ (fs.get? .second).isNone then none
  else
    let second := (fs.get? .second).getD 0
    some ((half * 12 + hour) * 3600 + minute * 60 + min second 59, second == 60)

/-! ## The moment -/

/-- The fields with those that a timestamp tells. -/
def withTimestamp? (fs : Fields) (t : Int) : Option Fields := do
  let (t, fs) ←
    if fs.get? .second = some 60 then
      if t % 60 = 59 then some (t, fs) else if t % 60 = 0 then some (t - 1, fs) else none
    else (fs.set .second (t % 60)).map fun fs => (t, fs)
  let d ← Date.ofNumber? (t / daySeconds)
  let fs ← fs.set .year d.year
  let fs ← fs.set .dayOfYear d.ordinal
  let fs ← fs.setHour (t % daySeconds / 3600)
  fs.set .minute (t % 3600 / 60)

/-- Seconds since the start of 1970. -/
def seconds (d : Date) (time : Int) : Int := d.number * daySeconds + time

/-- The moment, if the fields tell day and time; a timestamp has to agree with them. -/
def toldMoment? (fs : Fields) (d : Date) (time : Int) (leap : Bool) : Option Int :=
  let t := seconds d time
  match fs.get? .timestamp with
  | none => some t
  | some given => if given = t ∨ (leap ∧ given = t + 1) then some t else none

/-- The moment that the fields name as a time of universal time, in seconds. What is
missing of the day or the time is taken from a timestamp. -/
def moment? (fs : Fields) : Option Int :=
  match fs.date, fs.timeOfDay? with
  | .ok d, some (time, leap) => fs.toldMoment? d time leap
  | .error .contradiction, _ => none
  | _, _ => do
    let fs ← fs.withTimestamp? (← fs.get? .timestamp)
    match fs.date, fs.timeOfDay? with
    | .ok d, some (time, _) => some (seconds d time)
    | _, _ => none

end Fields

end MetaGraph.Time

/-
Days of the Gregorian calendar, carried on before its introduction and
below the year zero. A day is a year and its place in that year; days are
counted from 1 January 1970.
-/

namespace MetaGraph

/-- A day: a year and the number of the day in it, counted from one. -/
structure Date where
  year : Int
  ordinal : Nat
deriving DecidableEq, Repr, Inhabited

namespace Date

def isLeap (year : Int) : Bool := year % 4 == 0 && (year % 100 != 0 || year % 400 == 0)

def daysInYear (year : Int) : Nat := if isLeap year then 366 else 365

/-- The lengths of the months of a year. -/
def monthLengths (year : Int) : List Nat :=
  [31, if isLeap year then 29 else 28, 31, 30, 31, 30, 31, 31, 30, 31, 30, 31]

/-- The first and the last year in which a day can be named. -/
def minYear : Int := -262143
def maxYear : Int := 262142

/-- How many leap days there are up to the end of a year. -/
def leapDays (year : Int) : Int := year / 4 - year / 100 + year / 400

/-- The number of the day before the first one of a year. -/
def yearStart (year : Int) : Int := 365 * (year - 1970) + (leapDays (year - 1) - leapDays 1969)

/-- The number of a day; 1 January 1970 has the number zero. -/
def number (d : Date) : Int := yearStart d.year + d.ordinal - 1

/-- The day of the week; Monday is zero. -/
def weekday (d : Date) : Nat := ((d.number + 3) % 7).toNat

/-- The day of the given place in a year, if there is one. -/
def ofOrdinal? (year : Int) (ordinal : Nat) : Option Date :=
  if minYear ≤ year ∧ year ≤ maxYear ∧ 1 ≤ ordinal ∧ ordinal ≤ daysInYear year then
    some ⟨year, ordinal⟩
  else none

/-- The day of a month, if there is one. -/
def ofMonthDay? (year : Int) (month day : Nat) : Option Date :=
  let before := ((monthLengths year).take (month - 1)).foldl (· + ·) 0
  match (monthLengths year)[month - 1]? with
  | some length =>
    if 1 ≤ month ∧ 1 ≤ day ∧ day ≤ length then ofOrdinal? year (before + day) else none
  | none => none

/-- The day of a number, if its year is in range. -/
def ofNumber? (n : Int) : Option Date :=
  let guess := 1970 + n * 400 / 146097
  let year :=
    if n < yearStart guess then guess - 1
    else if yearStart (guess + 1) ≤ n then guess + 1
    else guess
  ofOrdinal? year (n - yearStart year + 1).toNat

/-- The month of a day in a year with months of the given lengths, and the day of
that month. -/
def monthDayFrom : Nat → List Nat → Nat → Nat × Nat
  | month, [], day => (month, day)
  | month, length :: rest, day =>
    if day ≤ length then (month, day) else monthDayFrom (month + 1) rest (day - length)

/-- The month and the day of the month. -/
def monthDay (d : Date) : Nat × Nat := monthDayFrom 1 (monthLengths d.year) d.ordinal

def month (d : Date) : Nat := d.monthDay.1

def day (d : Date) : Nat := d.monthDay.2

def quarter (d : Date) : Nat := (d.month - 1) / 3 + 1

/-- How many days lie between the weekday `start` and the weekday `w` after it. -/
def daysSince (w start : Nat) : Nat := (w + 7 - start) % 7

/-- The week of the year, if weeks start at `start`; the days before the first
start are in week zero. -/
def weekFrom (d : Date) (start : Nat) : Nat := (d.ordinal + 6 - daysSince d.weekday start) / 7

/-- The day of a week counted so, if it lies in the year. -/
def ofWeek? (year : Int) (week w start : Nat) : Option Date := do
  let first ← ofOrdinal? year 1
  let ordinal : Int := 1 + daysSince start first.weekday + ((week : Int) - 1) * 7 + daysSince w start
  if 53 < week ∨ ordinal ≤ 0 then none else ofOrdinal? year ordinal.toNat

/-- The number of the Monday with which the first week of a year starts, the first
week being the one that holds 4 January. -/
def firstMonday (year : Int) : Int :=
  let fourth : Date := ⟨year, 4⟩
  fourth.number - fourth.weekday

/-- The year to which the week of a day belongs, and the week in it. -/
def isoWeek (d : Date) : Int × Nat :=
  let monday := d.number - d.weekday
  let year :=
    if monday < firstMonday d.year then d.year - 1
    else if firstMonday (d.year + 1) ≤ monday then d.year + 1
    else d.year
  (year, ((monday - firstMonday year) / 7).toNat + 1)

/-- The day of a week counted so. -/
def ofIsoWeek? (year : Int) (week w : Nat) : Option Date :=
  let monday := firstMonday year + ((week : Int) - 1) * 7
  if week = 0 ∨ firstMonday (year + 1) ≤ monday then none else ofNumber? (monday + w)

end Date

/-- Seconds in a day. -/
def daySeconds : Int := 86400

end MetaGraph

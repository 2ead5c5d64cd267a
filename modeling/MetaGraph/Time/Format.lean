/-
Formats of times: a text in which `%` and a letter stand for a part of a
time, blanks for any blanks, and everything else for itself.
-/
import MetaGraph.Text.Blank

namespace MetaGraph.Time

/-- A part of a date or time that a text can tell. -/
inductive Field where
  | year
  /-- The hundreds of the year, and what is left of it. -/
  | century
  | yearOfCentury
  /-- The year to which a week belongs. -/
  | weekYear
  | weekYearOfCentury
  | quarter
  | month
  | day
  | dayOfYear
  /-- The week of the year, weeks starting on Sunday or on Monday. -/
  | sundayWeek
  | mondayWeek
  /-- The week of the week year. -/
  | week
  /-- Monday is zero. -/
  | weekday
  /-- Before noon is zero, after noon is one. -/
  | half
  | hourOfHalf
  | minute
  | second
  | nanosecond
  | timestamp
  | offset
deriving DecidableEq, Repr

/-- What the number in a text means. -/
inductive Meaning where
  | field (f : Field)
  /-- An hour of the day, or one between 1 and 12 of its half. -/
  | hour
  | hourOfClock
  /-- The number of the weekday, Sunday being zero, or Monday being one. -/
  | fromSunday
  | fromMonday
deriving DecidableEq, Repr

/-- A piece of a format. -/
inductive Item where
  | literal (cs : List Char)
  | space
  /-- A number of at most so many digits; a sign lifts the limit where one may stand. -/
  | number (m : Meaning) (width : Option Nat) (signed : Bool)
  | monthName (full : Bool)
  | weekdayName (full : Bool)
  | half
  /-- A point and the fraction of a second, of any or of exactly so many digits. -/
  | fraction (digits : Option Nat)
  /-- So many digits of a fraction without its point. -/
  | digits (count : Nat)
  | zoneName
  /-- The distance from universal time; `lenient` also takes a `Z` and hours alone. -/
  | offset (lenient : Bool)
  /-- A whole timestamp with its offset. -/
  | timestamp
deriving DecidableEq, Repr

def two (f : Field) : Item := .number (.field f) (some 2) false

def yearItem : Item := .number (.field .year) (some 4) true

def hourItem : Item := .number .hour (some 2) false

def clockItem : Item := .number .hourOfClock (some 2) false

def mark (c : Char) : Item := .literal [c]

/-- Hours and minutes. -/
def shortTime : List Item := [hourItem, mark ':', two .minute]

def longTime : List Item := shortTime ++ [mark ':', two .second]

/-- Month, day and year without its century. -/
def shortDate : List Item := [two .month, mark '/', two .day, mark '/', two .yearOfCentury]

def isoDate : List Item := [yearItem, mark '-', two .month, mark '-', two .day]

/-- What a letter stands for that takes a number, which may be padded. -/
def numberItem? : Char → Option Item
  | 'C' => some (two .century)
  | 'G' => some (.number (.field .weekYear) (some 4) true)
  | 'H' | 'k' => some hourItem
  | 'I' | 'l' => some clockItem
  | 'M' => some (two .minute)
  | 'S' => some (two .second)
  | 'U' => some (two .sundayWeek)
  | 'V' => some (two .week)
  | 'W' => some (two .mondayWeek)
  | 'Y' => some yearItem
  | 'd' | 'e' => some (two .day)
  | 'f' => some (.number (.field .nanosecond) (some 9) false)
  | 'g' => some (two .weekYearOfCentury)
  | 'j' => some (.number (.field .dayOfYear) (some 3) false)
  | 'm' => some (two .month)
  | 'q' => some (.number (.field .quarter) (some 1) false)
  | 's' => some (.number (.field .timestamp) none false)
  | 'u' => some (.number .fromMonday (some 1) false)
  | 'w' => some (.number .fromSunday (some 1) false)
  | 'y' => some (two .yearOfCentury)
  | _ => none

/-- What any other single letter stands for. -/
def otherItems? : Char → Option (List Item)
  | 'A' => some [.weekdayName true]
  | 'a' => some [.weekdayName false]
  | 'B' => some [.monthName true]
  | 'b' | 'h' => some [.monthName false]
  | 'P' | 'p' => some [.half]
  | 'Z' => some [.zoneName]
  | 'z' => some [.offset false]
  | '+' => some [.timestamp]
  | 'n' | 't' => some [.space]
  | '%' => some [mark '%']
  | 'D' | 'x' => some shortDate
  | 'F' => some isoDate
  | 'R' => some shortTime
  | 'T' | 'X' => some longTime
  | 'r' => some ([clockItem, mark ':', two .minute, mark ':', two .second, .space, .half])
  | 'c' =>
    some ([.weekdayName false, .space, .monthName false, .space, two .day, .space] ++ longTime ++
      [.space, yearItem])
  | 'v' => some [two .day, mark '-', .monthName false, mark '-', yearItem]
  | _ => none

/-- The items after a percent sign, and the format after them. -/
def specifier? : List Char → Option (List Item × List Char)
  | '-' :: c :: rest | '0' :: c :: rest | '_' :: c :: rest =>
    (numberItem? c).map fun item => ([item], rest)
  | '#' :: 'z' :: rest => some ([.offset true], rest)
  | ':' :: ':' :: ':' :: 'z' :: rest => some ([.offset false], rest)
  | ':' :: ':' :: 'z' :: rest => some ([.offset false], rest)
  | ':' :: 'z' :: rest => some ([.offset false], rest)
  | '.' :: 'f' :: rest => some ([.fraction none], rest)
  | '.' :: '3' :: 'f' :: rest => some ([.fraction (some 3)], rest)
  | '.' :: '6' :: 'f' :: rest => some ([.fraction (some 6)], rest)
  | '.' :: '9' :: 'f' :: rest => some ([.fraction (some 9)], rest)
  | '3' :: 'f' :: rest => some ([.digits 3], rest)
  | '6' :: 'f' :: rest => some ([.digits 6], rest)
  | '9' :: 'f' :: rest => some ([.digits 9], rest)
  | c :: rest =>
    match numberItem? c with
    | some item => some ([item], rest)
    | none => (otherItems? c).map fun items => (items, rest)
  | [] => none

/-- The items of a format; `fuel` bounds its length. -/
def itemsWithin? : Nat → List Char → Option (List Item)
  | _, [] => some []
  | 0, _ => none
  | fuel + 1, '%' :: rest => do
    let (items, rest) ← specifier? rest
    (itemsWithin? fuel rest).map (items ++ ·)
  | fuel + 1, c :: rest =>
    let item := if Text.isBlank c then .space else mark c
    (itemsWithin? fuel rest).map (item :: ·)

/-- The items of a format, if it has only known ones. -/
def items? (format : String) : Option (List Item) :=
  itemsWithin? format.toList.length format.toList

end MetaGraph.Time

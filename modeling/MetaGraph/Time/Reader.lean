/-
Reading a time out of a text: by a format, or in the one form that needs no
format, a date and a time of day with their distance from universal time.
-/
import MetaGraph.Decimal.Power
import MetaGraph.Decimal.Reader
import MetaGraph.Text.Utf8
import MetaGraph.Time.Fields

namespace MetaGraph.Time

/-- Why a text is no timestamp. -/
inductive TimeFault where
  | outOfRange
  | invalid
  | tooShort
  | tooLong
deriving DecidableEq, Repr

def TimeFault.message : TimeFault → String
  | outOfRange => "input is out of range"
  | invalid => "input contains invalid characters"
  | tooShort => "premature end of input"
  | tooLong => "trailing input"

/-- A reader of the front of a text. -/
abbrev Read (α : Type) := List Char → Except TimeFault (α × List Char)

/-! ## Numbers -/

/-- A number of at least `least` and at most `most` digits. -/
def number (least : Nat) (most : Option Nat) : Read Nat := fun cs =>
  let digits := cs.takeWhile Char.isDigit
  let digits :=
    match most with
    | some n => digits.take n
    | none => digits
  if cs.length < least then .error .tooShort
  else if digits.length < least then .error .invalid
  else .ok (Decimal.digitsValue digits, cs.drop digits.length)

/-- The fraction of a second, in nanoseconds. Digits past the ninth do not count. -/
def fraction : Read Nat := fun cs => do
  let (n, rest) ← number 1 (some 9) cs
  let count := cs.length - rest.length
  pure (n * tenTo (9 - count), rest.dropWhile Char.isDigit)

/-- A fraction of exactly so many digits. -/
def fractionOf (count : Nat) : Read Nat := fun cs => do
  let (n, rest) ← number count (some count) cs
  pure (n * tenTo (9 - count), rest)

/-! ## Offsets -/

/-- Two digits. -/
def twoDigits : Read Nat
  | [] => .error .tooShort
  | [c] => .error (if c.toNat < 128 then .tooShort else .invalid)
  | a :: b :: rest =>
    if a.isDigit && b.isDigit then .ok (Decimal.digitsValue [a, b], rest) else .error .invalid

/-- Minutes of an offset. -/
def offsetMinutes : Read Nat := fun cs => do
  let (n, rest) ← twoDigits cs
  if n < 60 then pure (n, rest) else throw .outOfRange

/-- How strictly an offset is read. -/
structure OffsetRules where
  /-- Whether a `Z` stands for no distance. -/
  zulu : Bool
  /-- Whether minutes may be missing. -/
  hoursAlone : Bool
  /-- Whether exactly one colon has to divide hours and minutes, instead of any
  colons and blanks. -/
  oneColon : Bool

/-- The distance from universal time, in seconds. -/
def offset (rules : OffsetRules) : Read Int := fun cs =>
  match cs with
  | [] => .error .tooShort
  | c :: rest =>
    if rules.zulu ∧ (c = 'Z' ∨ c = 'z') then .ok (0, rest)
    else if c = '+' ∨ c = '-' ∨ c = '\u2212' then do
      let (hours, rest) ← twoDigits rest
      let rest ←
        if rules.oneColon then
          match rest with
          | ':' :: rest => pure rest
          | [] => throw .tooShort
          | _ => throw .invalid
        else pure (rest.dropWhile fun c => c == ':' || Text.isBlank c)
      let (minutes, rest) ←
        if rules.hoursAlone ∧ rest = [] then pure (0, []) else offsetMinutes rest
      let seconds : Int := hours * 3600 + minutes * 60
      pure (if c = '+' then seconds else -seconds, rest)
    else .error .invalid

/-! ## By a format -/

/-- The text after its front, letters of both cases counting as the same. -/
def afterWord? (word : List Char) (cs : List Char) : Option (List Char) :=
  if (cs.take word.length).map Char.toLower = word ∧ word.length ≤ cs.length then
    some (cs.drop word.length)
  else none

/-- A name of a list, told by its first three letters: its place, and the text after
it; the rest of a full name is passed over if it is there. -/
def nameIn? (full : Bool) : Nat → List String → List Char → Option (Nat × List Char)
  | _, [], _ => none
  | i, name :: names, cs =>
    match afterWord? (name.toList.take 3) cs with
    | some rest =>
      some (i, if full then (afterWord? (name.toList.drop 3) rest).getD rest else rest)
    | none => nameIn? full (i + 1) names cs

def monthNames : List String :=
  ["january", "february", "march", "april", "may", "june", "july", "august", "september",
    "october", "november", "december"]

def weekdayNames : List String :=
  ["monday", "tuesday", "wednesday", "thursday", "friday", "saturday", "sunday"]

/-- The fields with one more that was read, and the text after it. -/
def told (fs : Fields) (f : Field) (v : Int) (rest : List Char) : Option (Fields × List Char) :=
  (fs.set f v).map fun fs => (fs, rest)

/-- A number with its sign, if it may have one. -/
def signedNumber? (width : Option Nat) (signed : Bool) (cs : List Char) : Option (Int × List Char) :=
  match cs with
  | '-' :: rest =>
    if signed then ((number 1 none rest).toOption).map fun (n, rest) => (-(n : Int), rest) else none
  | '+' :: rest =>
    if signed then ((number 1 none rest).toOption).map fun (n, rest) => ((n : Int), rest) else none
  | cs => ((number 1 width cs).toOption).map fun (n, rest) => ((n : Int), rest)

/-- What an item other than a whole timestamp reads. -/
def readSimple? (fs : Fields) (cs : List Char) : Item → Option (Fields × List Char)
  | .literal word => if cs.take word.length = word then some (fs, cs.drop word.length) else none
  | .space => some (fs, Text.trimFront cs)
  | .number m width signed => do
    let (n, rest) ← signedNumber? width signed (Text.trimFront cs)
    (fs.setMeaning n m).map fun fs => (fs, rest)
  | .monthName full => do
    let (i, rest) ← nameIn? full 0 monthNames cs
    told fs .month (i + 1 : Nat) rest
  | .weekdayName full => do
    let (i, rest) ← nameIn? full 0 weekdayNames cs
    told fs .weekday (i : Nat) rest
  | .half =>
    match afterWord? ['a', 'm'] cs, afterWord? ['p', 'm'] cs with
    | some rest, _ => told fs .half 0 rest
    | none, some rest => told fs .half 1 rest
    | none, none => none
  | .fraction count =>
    match cs with
    | '.' :: rest => do
      let (n, rest) ← ((count.elim fraction fractionOf) rest).toOption
      told fs .nanosecond n rest
    | cs => some (fs, cs)
  | .digits count => do
    let (n, rest) ← (fractionOf count cs).toOption
    told fs .nanosecond n rest
  | .zoneName => some (fs, cs.dropWhile fun c => !Text.isBlank c)
  | .offset lenient => do
    let (n, rest) ← (offset ⟨lenient, lenient, false⟩ (Text.trimFront cs)).toOption
    told fs .offset n rest
  | .timestamp => none

def readAll? (fs : Fields) (cs : List Char) : List Item → Option (Fields × List Char)
  | [] => some (fs, cs)
  | item :: items => do
    let (fs, cs) ← readSimple? fs cs item
    readAll? fs cs items

/-- The items of a date in a whole timestamp. -/
def looseDate : List Item :=
  [yearItem, .space, mark '-', two .month, .space, mark '-', two .day]

/-- The items of a time of day in a whole timestamp. -/
def looseTime : List Item :=
  [hourItem, .space, mark ':', two .minute, .space, mark ':', two .second, .fraction none, .space]

/-- A whole timestamp with its offset, blanks allowed between its parts. -/
def readTimestamp? (fs : Fields) (cs : List Char) : Option (Fields × List Char) := do
  let (fs, cs) ← readAll? fs cs looseDate
  let cs ←
    match cs with
    | c :: rest => if c = 't' ∨ c = 'T' ∨ c = ' ' then some rest else none
    | [] => none
  let (fs, cs) ← readAll? fs cs looseTime
  match afterWord? ['u', 't', 'c'] cs with
  | some rest => told fs .offset 0 rest
  | none => do
    let (n, rest) ← (offset ⟨true, false, false⟩ cs).toOption
    told fs .offset n rest

/-- The fields that a text tells by the items of a format. -/
def fields? (fs : Fields) (cs : List Char) : List Item → Option (Fields × List Char)
  | [] => some (fs, cs)
  | .timestamp :: items => do
    let (fs, cs) ← readTimestamp? fs cs
    fields? fs cs items
  | item :: items => do
    let (fs, cs) ← readSimple? fs cs item
    fields? fs cs items

/-- The moment that a text names by a format, taken as universal time whatever offset
it tells, in seconds since the start of 1970. -/
def byFormat? (format text : String) : Option Int := do
  let items ← items? format
  match ← fields? [] text.toList items with
  | (fs, []) => fs.moment?
  | _ => none

/-! ## Without a format -/

/-- The number that two bytes of a text write, one after the other. -/
def pairAt (cs : List Char) (i : Nat) : Except TimeFault Nat :=
  match cs.drop i with
  | a :: b :: _ =>
    if a.isDigit && b.isDigit then .ok (Decimal.digitsValue [a, b]) else .error .invalid
  | _ => .error .invalid

/-- Checks that one of the given characters stands at a place. -/
def expectAt (cs : List Char) (i : Nat) (wanted : List Char) : Except TimeFault Unit :=
  if (cs[i]?.map wanted.contains).getD false then .ok () else .error .invalid

/-- How many bytes date and time of day take. -/
def fixedLength : Nat := 19

/-- The greatest distance from universal time. -/
def maxOffset : Int := (23 * 60 + 59) * 60

/-- The moment of a whole timestamp with its offset, in seconds since the start of
1970. Its date and time have a fixed width. -/
def standard (text : String) : Except TimeFault Int := do
  let bytes := Utf8.encode text
  if bytes.length < fixedLength then throw .tooShort
  let front := (bytes.take fixedLength).map fun b => Char.ofNat b.toNat
  let century ← pairAt front 0
  let rest ← pairAt front 2
  expectAt front 4 ['-']
  let month ← pairAt front 5
  expectAt front 7 ['-']
  let day ← pairAt front 8
  let date ←
    match Date.ofMonthDay? (century * 100 + rest : Nat) month day with
    | some d => pure d
    | none => throw .outOfRange
  expectAt front 10 ['t', 'T', ' ']
  let hour ← pairAt front 11
  expectAt front 13 [':']
  let minute ← pairAt front 14
  expectAt front 16 [':']
  let second ← pairAt front 17
  let tail := text.toList.drop fixedLength
  let tail ←
    match tail with
    | '.' :: cs => do pure (← fraction cs).2
    | cs => pure cs
  if 23 < hour ∨ 59 < minute ∨ 60 < second then throw .outOfRange
  let (distance, tail) ← offset ⟨true, false, true⟩ tail
  if tail ≠ [] then throw .tooLong
  if distance < -maxOffset ∨ maxOffset < distance then throw .outOfRange
  pure (Fields.seconds date (hour * 3600 + minute * 60 + min second 59 : Nat) - distance)

end MetaGraph.Time

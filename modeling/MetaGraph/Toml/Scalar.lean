/-
The scalar values of a TOML document: strings in their four forms, integers in
four bases, floats, dates and times. A reader gives the value at the front of
the text and the text after it, or nothing if none stands there.
-/
import MetaGraph.Decimal.Reader
import MetaGraph.Decode.Datum
import MetaGraph.Time.Calendar

namespace MetaGraph.Toml

/-- What a reader takes from the front of a text. -/
abbrev Scan (α : Type) := List Char → Option (α × List Char)

/-! ## Blanks, line ends and comments -/

def isSpace (c : Char) : Bool := c == ' ' || c == '\t'

def skipSpaces (cs : List Char) : List Char := cs.dropWhile isSpace

/-- Characters that may stand in comments and strings: no control characters but the tab. -/
def isPlain (c : Char) : Bool := c == '\t' || (' ' ≤ c && c ≤ '~') || 0x80 ≤ c.toNat

/-- Characters of a key without quotes. -/
def isBareKey (c : Char) : Bool := c.isAlphanum || c == '_' || c == '-'

/-- The text after the character `c`. -/
def after? (c : Char) : List Char → Option (List Char)
  | d :: cs => if d = c then some cs else none
  | [] => none

/-- The text after a line end. -/
def newline? : List Char → Option (List Char)
  | '\n' :: cs => some cs
  | '\r' :: '\n' :: cs => some cs
  | _ => none

/-- The text without the spaces, line ends and comments at its front. A comment
with a control character in it ends there. -/
def skipLines (inComment : Bool) : List Char → List Char
  | [] => []
  | '\n' :: cs => skipLines false cs
  | '\r' :: '\n' :: cs => skipLines false cs
  | c :: cs =>
    if inComment then if isPlain c then skipLines true cs else c :: cs
    else if isSpace c then skipLines false cs
    else if c = '#' then skipLines true cs
    else c :: cs

/-- The rest of a line that holds nothing more but spaces and a comment. -/
def lineEnd? (cs : List Char) : Option (List Char) :=
  let rest :=
    match skipSpaces cs with
    | '#' :: rest => rest.dropWhile isPlain
    | rest => rest
  if rest = [] then some [] else newline? rest

/-! ## Strings -/

/-- The character with the number written by `n` hexadecimal digits. -/
def codePoint? (n : Nat) (cs : List Char) : Option (Char × List Char) := do
  let digits ← (cs.take n).mapM Decimal.hexDigit?
  if digits.length < n then none
  else
    let code := digits.foldl (fun m d => m * 16 + d) 0
    if code.isValidChar then some (Char.ofNat code, cs.drop n) else none

/-- What an escape stands for, after its backslash. -/
def escape? : Scan Char
  | 'b' :: cs => some ('\x08', cs)
  | 't' :: cs => some ('\t', cs)
  | 'n' :: cs => some ('\n', cs)
  | 'f' :: cs => some ('\x0c', cs)
  | 'r' :: cs => some ('\r', cs)
  | '"' :: cs => some ('"', cs)
  | '\\' :: cs => some ('\\', cs)
  | 'u' :: cs => codePoint? 4 cs
  | 'U' :: cs => codePoint? 8 cs
  | _ => none

/-- The rest of a string between double quotes. -/
def basicRest : Nat → List Char → Scan String
  | 0, _, _ => none
  | fuel + 1, acc, cs =>
    match cs with
    | '"' :: rest => some (String.ofList acc.reverse, rest)
    | '\\' :: rest => do
      let (c, rest) ← escape? rest
      basicRest fuel (c :: acc) rest
    | c :: rest => if isPlain c then basicRest fuel (c :: acc) rest else none
    | [] => none

/-- The rest of a string between triple quotes `q`, where escapes count if
`escapes`. Up to two quotes may stand right before the closing ones. -/
def longRest (q : Char) (escapes : Bool) : Nat → List Char → Scan String
  | 0, _, _ => none
  | fuel + 1, acc, cs =>
    match cs with
    | [] => none
    | c :: rest =>
      if c = q then
        let run := (cs.takeWhile (· == q)).length
        if run < 3 then longRest q escapes fuel (c :: acc) rest
        else
          let kept := min run 5 - 3
          some (String.ofList (acc.reverse ++ List.replicate kept q), cs.drop (kept + 3))
      else if escapes && c == '\\' then
        match newline? (skipSpaces rest) with
        | some rest => longRest q escapes fuel acc (skipBreaks rest)
        | none => do
          let (c, rest) ← escape? rest
          longRest q escapes fuel (c :: acc) rest
      else
        match newline? cs with
        | some rest => longRest q escapes fuel ('\n' :: acc) rest
        | none => if isPlain c then longRest q escapes fuel (c :: acc) rest else none
where
  /-- The text without the spaces and line ends at its front. -/
  skipBreaks : List Char → List Char
    | '\n' :: cs => skipBreaks cs
    | '\r' :: '\n' :: cs => skipBreaks cs
    | c :: cs => if isSpace c then skipBreaks cs else c :: cs
    | [] => []

/-- A string between single quotes, after the opening one. -/
def literalRest (cs : List Char) : Option (String × List Char) :=
  let body := cs.takeWhile fun c => c != '\'' && isPlain c
  match cs.drop body.length with
  | '\'' :: rest => some (String.ofList body, rest)
  | _ => none

/-- A string on one line, as it may also stand for a key. -/
def shortString? : Scan String
  | '"' :: cs => basicRest (cs.length + 1) [] cs
  | '\'' :: cs => literalRest cs
  | _ => none

/-- A string in any form. A line end right after triple quotes does not count. -/
def string? : Scan String
  | '"' :: '"' :: '"' :: cs => longRest '"' true (cs.length + 1) [] ((newline? cs).getD cs)
  | '\'' :: '\'' :: '\'' :: cs => longRest '\'' false (cs.length + 1) [] ((newline? cs).getD cs)
  | cs => shortString? cs

/-! ## Numbers -/

/-- The digits at the front, an underscore between two of them being passed over. -/
def moreDigits (isDigit : Char → Bool) : List Char → List Char × List Char
  | '_' :: c :: cs =>
    if isDigit c then
      let (ds, rest) := moreDigits isDigit cs
      (c :: ds, rest)
    else ([], '_' :: c :: cs)
  | c :: cs =>
    if isDigit c then
      let (ds, rest) := moreDigits isDigit cs
      (c :: ds, rest)
    else ([], c :: cs)
  | [] => ([], [])

/-- At least one digit. -/
def digits? (isDigit : Char → Bool) : Scan (List Char)
  | c :: cs =>
    if isDigit c then
      let (ds, rest) := moreDigits isDigit cs
      some (c :: ds, rest)
    else none
  | [] => none

/-- The digits of a decimal integer, which has no zero in front. -/
def whole? : Scan (List Char)
  | '0' :: cs => some (['0'], cs)
  | cs => digits? Char.isDigit cs

/-- Whether `c` is a digit of the base. -/
def isDigitOf (base : Nat) (c : Char) : Bool :=
  match Decimal.hexDigit? c with
  | some d => d < base
  | none => false

/-- An integer with 64 bits and a sign. -/
def int64? (n : Int) : Option Datum :=
  if Decimal.i64Min ≤ n ∧ n ≤ Decimal.i64Max then some (.integer true n) else none

/-- An integer of the given base, after the mark of the base. -/
def based? (base : Nat) : Scan Datum := fun cs => do
  let (ds, rest) ← digits? (isDigitOf base) cs
  let n := ds.foldl (fun n c => n * base + (Decimal.hexDigit? c).getD 0) 0
  let d ← int64? n
  some (d, rest)

/-- An exponent, as written. -/
def exponent? : Scan (List Char)
  | e :: cs => do
    if e ≠ 'e' ∧ e ≠ 'E' then none
    else
      let (sign, cs) :=
        match cs with
        | '-' :: cs => (['-'], cs)
        | '+' :: cs => ([], cs)
        | cs => ([], cs)
      let (ds, rest) ← digits? Char.isDigit cs
      some ('e' :: sign ++ ds, rest)
  | [] => none

/-- What follows the whole part of a float, as written: a fraction, an exponent or both. -/
def floatTail? : Scan (List Char)
  | '.' :: cs => do
    let (ds, rest) ← digits? Char.isDigit cs
    match exponent? rest with
    | some (e, rest) => some ('.' :: ds ++ e, rest)
    | none => some ('.' :: ds, rest)
  | cs => exponent? cs

/-- A sign, if there is one, and the text after it. -/
def sign : List Char → List Char × List Char
  | '-' :: cs => (['-'], cs)
  | '+' :: cs => ([], cs)
  | cs => ([], cs)

/-- An integer or a float in decimal digits. A number too large for a float is
no number, unless it is negative. -/
def decimal? : Scan Datum := fun cs => do
  let (sign, cs) := sign cs
  let (ds, rest) ← whole? cs
  match floatTail? rest with
  | some (tail, rest) =>
    let x ← Decimal.binary64? (sign ++ ds ++ tail)
    if x = Binary64.infinity false then none else some (.float x, rest)
  | none =>
    let n : Int := Decimal.digitsValue ds
    let d ← int64? (if sign = [] then n else -n)
    some (d, rest)

/-- An infinity or NaN, with an optional sign. -/
def namedFloat? : Scan Datum := fun cs => do
  let (sign, cs) := sign cs
  match cs with
  | 'i' :: 'n' :: 'f' :: rest => some (.float (Binary64.infinity (sign ≠ [])), rest)
  | 'n' :: 'a' :: 'n' :: rest =>
    some (.float (if sign = [] then Binary64.nan else Binary64.nan.neg), rest)
  | _ => none

/-! ## Dates and times -/

/-- A number of exactly `n` digits between `lo` and `hi`, as written. -/
def field? (n lo hi : Nat) : Scan (List Char) := fun cs =>
  let ds := cs.take n
  let value := Decimal.digitsValue ds
  if ds.length = n && ds.all Char.isDigit && lo ≤ value && value ≤ hi then some (ds, cs.drop n)
  else none

def date? : Scan (List Char) := fun cs => do
  let (year, cs) ← field? 4 0 9999 cs
  let cs ← after? '-' cs
  let (month, cs) ← field? 2 1 12 cs
  let cs ← after? '-' cs
  let (day, cs) ← field? 2 1 31 cs
  let days ← (Date.monthLengths (Decimal.digitsValue year))[Decimal.digitsValue month - 1]?
  if days < Decimal.digitsValue day then none
  else some (year ++ '-' :: month ++ '-' :: day, cs)

/-- A fraction of a second, to at most nine places and without zeros at its end. -/
def fraction : List Char → List Char × List Char
  | '.' :: cs =>
    let ds := cs.takeWhile Char.isDigit
    if ds = [] then ([], '.' :: cs)
    else
      let kept := ((ds.take 9).reverse.dropWhile (· == '0')).reverse
      (if kept = [] then [] else '.' :: kept, cs.drop ds.length)
  | cs => ([], cs)

def time? : Scan (List Char) := fun cs => do
  let (hour, cs) ← field? 2 0 23 cs
  let cs ← after? ':' cs
  let (minute, cs) ← field? 2 0 59 cs
  let cs ← after? ':' cs
  let (second, cs) ← field? 2 0 60 cs
  let (fraction, cs) := fraction cs
  some (hour ++ ':' :: minute ++ ':' :: second ++ fraction, cs)

/-- A distance from universal time; a zero distance has a plus. -/
def offset? : Scan (List Char)
  | 'Z' :: cs => some (['Z'], cs)
  | 'z' :: cs => some (['Z'], cs)
  | s :: cs => do
    if s ≠ '+' ∧ s ≠ '-' then none
    else
      let (hour, cs) ← field? 2 0 23 cs
      let cs ← after? ':' cs
      let (minute, cs) ← field? 2 0 59 cs
      let isZero := Decimal.digitsValue (hour ++ minute) = 0
      some ((if isZero then '+' else s) :: hour ++ ':' :: minute, cs)
  | [] => none

/-- The time that may follow a date, with its offset. -/
def timeAfterDate? : Scan (List Char)
  | c :: cs => do
    if c ≠ 'T' ∧ c ≠ 't' ∧ c ≠ ' ' then none
    else
      let (time, cs) ← time? cs
      match offset? cs with
      | some (offset, cs) => some ('T' :: time ++ offset, cs)
      | none => some ('T' :: time, cs)
  | [] => none

/-- The name under which a date or time is found. -/
def datetimeName : String := "$__toml_private_datetime"

/-- A date, a time or both. It counts as a table with its text as only entry. -/
def datetime? : Scan Datum := fun cs => do
  let (text, rest) ←
    match date? cs with
    | some (date, rest) =>
      match timeAfterDate? rest with
      | some (time, rest) => some (date ++ time, rest)
      | none => some (date, rest)
    | none => time? cs
  some (.table [(datetimeName, .text (String.ofList text))], rest)

/-! ## Scalars -/

/-- The text after `word`, if it starts so. -/
def word? (word : String) (cs : List Char) : Option (List Char) :=
  if cs.take word.length = word.toList then some (cs.drop word.length) else none

/-- A date or a number. -/
def dateOrNumber? : Scan Datum := fun cs =>
  datetime? cs <|> (match cs with
    | '0' :: 'x' :: cs => based? 16 cs
    | '0' :: 'o' :: cs => based? 8 cs
    | '0' :: 'b' :: cs => based? 2 cs
    | cs => decimal? cs <|> namedFloat? cs)

/-- A value that is neither an array nor a table. -/
def scalar? : Scan Datum := fun cs =>
  match cs with
  | '"' :: _ | '\'' :: _ => (string? cs).map fun (s, rest) => (.text s, rest)
  | 't' :: _ => (word? "true" cs).map (Datum.bool true, ·)
  | 'f' :: _ => (word? "false" cs).map (Datum.bool false, ·)
  | _ => dateOrNumber? cs

end MetaGraph.Toml

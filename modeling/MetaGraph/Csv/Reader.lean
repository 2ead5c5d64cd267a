/-
Reading CSV files. Fields are divided by commas and rows by line breaks of
any kind; a field that starts with a quote goes on to its closing quote, a
quote inside being written twice, and whatever follows the closing quote
still belongs to the field. Empty lines are passed over. Every row must have
as many fields as the first one.
-/
import MetaGraph.Files.Store

namespace MetaGraph.Csv

def comma : UInt8 := 44
def quote : UInt8 := 34
def lineFeed : UInt8 := 10
def carriageReturn : UInt8 := 13

/-- Whether a byte ends a line. -/
def isLineEnd (b : UInt8) : Bool := b == lineFeed || b == carriageReturn

/-- How a field ended, with the bytes that follow. -/
inductive Stop where
  | field (rest : Bytes)
  | row (rest : Bytes)
  | file
deriving DecidableEq, Repr

/-- A field without quotes, or the part of one after its closing quote. -/
def bareField : Bytes → Bytes × Stop
  | [] => ([], .file)
  | b :: bs =>
    if b = comma then ([], .field bs)
    else if isLineEnd b then ([], .row bs)
    else
      let (field, stop) := bareField bs
      (b :: field, stop)

/-- A field after its opening quote. -/
def quotedField : Bytes → Bytes × Stop
  | [] => ([], .file)
  | [b] => if b = quote then ([], .file) else ([b], .file)
  | b :: c :: bs =>
    if b = quote then
      if c = quote then
        let (field, stop) := quotedField bs
        (quote :: field, stop)
      else bareField (c :: bs)
    else
      let (field, stop) := quotedField (c :: bs)
      (b :: field, stop)

def anyField : Bytes → Bytes × Stop
  | [] => ([], .file)
  | b :: bs => if b = quote then quotedField bs else bareField (b :: bs)

/-- The fields of a row and the bytes after it. A row has at most one field more
than it has bytes. -/
def fieldsOf : Nat → Bytes → List Bytes × Bytes
  | 0, bs => ([], bs)
  | fuel + 1, bs =>
    match anyField bs with
    | (field, .field rest) =>
      let (fields, rest) := fieldsOf fuel rest
      (field :: fields, rest)
    | (field, .row rest) => ([field], rest)
    | (field, .file) => ([field], [])

/-- Where a row starts: bytes and rows before it, and the number of its line. -/
structure Position where
  byte : Nat := 0
  line : Nat := 1
  row : Nat := 0
deriving DecidableEq, Repr

/-- Why a CSV file cannot be read or written. -/
inductive CsvError where
  | io (e : FileError)
  | notText (at_ : Position) (field : Nat) (valid : Nat)
  | unequalLengths (at_ : Position) (length expected : Nat)
deriving DecidableEq, Repr

def CsvError.message : CsvError → String
  | io e => e.message
  | notText at_ field valid =>
    s!"CSV parse error: record {at_.row} (line {at_.line}, field: {field}, byte: {at_.byte}): " ++
      s!"invalid utf-8: invalid UTF-8 in field {field} near byte index {valid}"
  | unequalLengths at_ length expected =>
    s!"CSV error: record {at_.row} (line: {at_.line}, byte: {at_.byte}): " ++
      s!"found record with {length} fields, but the previous record has {expected} fields"

/-- A file being read row by row. -/
structure Reader where
  rest : Bytes
  position : Position := {}
  /-- How many fields the first row had. -/
  width : Option Nat := none
deriving DecidableEq, Repr

namespace Reader

/-- A reader at the start of a file; a byte order mark is passed over. -/
def ofBytes (content : Bytes) : Reader :=
  match content with
  | 0xEF :: 0xBB :: 0xBF :: rest => { rest, position := { byte := 3 } }
  | _ => { rest := content }

/-- The fields as texts; a field that is none is reported by its index. -/
def texts (start : Position) : Nat → List Bytes → Except CsvError (List String)
  | _, [] => .ok []
  | i, field :: fields =>
    match Utf8.decode field with
    | .error valid => .error (.notText start i valid)
    | .ok s => (texts start (i + 1) fields).map (s :: ·)

/-- The next row, or none at the end of the file. A row that is not text or has
the wrong length is reported, and reading goes on after it. -/
def next (r : Reader) : Except CsvError (Option (List String)) × Reader :=
  let body := r.rest.dropWhile isLineEnd
  if body = [] then (.ok none, { r with rest := [] })
  else
    let (fields, rest) := fieldsOf (body.length + 1) body
    let used := r.rest.take (r.rest.length - rest.length)
    let start := r.position
    let after : Reader :=
      { rest
        position :=
          { byte := start.byte + used.length
            line := start.line + used.count lineFeed
            row := start.row + 1 }
        width := some (r.width.getD fields.length) }
    let result :=
      match r.width with
      | some expected =>
        if fields.length = expected then (texts start 0 fields).map some
        else .error (.unequalLengths start fields.length expected)
      | none => (texts start 0 fields).map some
    (result, after)

/-- The header row, empty for an empty file. -/
def header (r : Reader) : Except CsvError (List String) × Reader :=
  let (row, r) := r.next
  (row.map (·.getD []), r)

/-- The rows that are left up to the first faulty one, and its fault. A file has no
more rows than bytes. -/
def rows (r : Reader) : List (List String) × Option CsvError :=
  go (r.rest.length + 1) r
where
  go : Nat → Reader → List (List String) × Option CsvError
    | 0, _ => ([], none)
    | fuel + 1, r =>
      match r.next with
      | (.error e, _) => ([], some e)
      | (.ok none, _) => ([], none)
      | (.ok (some row), r) =>
        let (rest, fault) := go fuel r
        (row :: rest, fault)

end Reader

end MetaGraph.Csv

/-
Lenient decoding of a model's fields. Records come from CSV files, where
everything is a text, and from JSON documents, where identifiers are often
numbers, so a scalar field takes either.
-/
import MetaGraph.Decimal.Reader
import MetaGraph.Decode.Shape
import MetaGraph.Json.Printer
import MetaGraph.Model.Error
import MetaGraph.Text.Blank
import MetaGraph.Text.Pieces

namespace MetaGraph.Field

/-- A value without structure. -/
inductive Scalar where
  | bool (b : Bool)
  | int (n : Int)
  | float (x : Binary64)
  | text (s : String)
deriving DecidableEq, Repr

/-- A scalar; an integer outside the signed 64-bit range is taken as a float. -/
def Scalar.ofDatum? : Datum → Option Scalar
  | .bool b => some (.bool b)
  | .integer _ n =>
    if Decimal.i64Min ≤ n ∧ n ≤ Decimal.i64Max then some (.int n)
    else some (.float (Binary64.ofInt n))
  | .float x => some (.float x)
  | .text s => some (.text s)
  | _ => none

def scalar : Decoder Scalar := fun _ d =>
  match Scalar.ofDatum? d with
  | some s => .ok s
  | none => .error (.custom "data did not match any variant of untagged enum Scalar")

/-- The text of a scalar; a whole float is written without a point. -/
def Scalar.toText : Scalar → String
  | bool b => if b then "true" else "false"
  | int n => String.ofList (Json.intText n)
  | float x => x.text .plain
  | text s => s

/-- The integer of a scalar: an integer, a whole float held to the 64-bit range,
or a text that writes one between blanks. -/
def Scalar.toInt : Scalar → Except DecodeError Int
  | int n => .ok n
  | float x =>
    if x.isWhole then .ok (x.truncateWithin Decimal.i64Min Decimal.i64Max)
    else .error (.custom s!"expected an integer, got {x.text .plain}")
  | text s =>
    match Decimal.int64 (Text.trim s) with
    | .ok n => .ok n
    | .error e => .error (.custom s!"expected an integer, got {Text.quoted s}: {e.message}")
  | bool b => .error (.custom s!"expected an integer, got {b}")

def string : Decoder String := fun origin d => (scalar origin d).map Scalar.toText

/-- A text; a missing, empty or null one counts as none. -/
def optString : Decoder (Option String) := fun origin d => do
  match ← Decoder.option scalar origin d with
  | none => pure none
  | some s => pure (if s.toText = "" then none else some s.toText)

def int : Decoder Int := fun origin d => do (← scalar origin d).toInt

/-- An integer; null and blank texts count as none. -/
def optInt : Decoder (Option Int) := fun origin d => do
  match ← Decoder.option scalar origin d with
  | none => pure none
  | some (.text s) => if Text.trim s = "" then pure none else some <$> (Scalar.text s).toInt
  | some s => some <$> s.toInt

/-- The items of a text separated by commas, without the blanks around them. -/
def commaItems (s : String) : List String := (Text.splitOn ',' s).map Text.trim

/-- A list of scalars, or a text of items separated by commas; empty items do
not count, and null is the empty list. -/
def stringList : Decoder (List String) := fun _ d => do
  let items ←
    match d with
    | .empty => pure []
    | .text s => pure (commaItems s)
    | .list items =>
      match items.mapM Scalar.ofDatum? with
      | some scalars => pure (scalars.map Scalar.toText)
      | none => throw unmatched
    | _ => throw unmatched
  pure (items.filter (· ≠ ""))
where
  unmatched : DecodeError := .custom "data did not match any variant of untagged enum ListOrString"

/-- Binds a record to the fields of a model. -/
def ofRecord {α : Type} (model : String) (shape : Shape α) (record : Record) :
    Except ModelError α :=
  match shape.ofEntries .json (Json.toEntries record) with
  | .ok fields => .ok fields
  | .error e => .error (.invalidRecord model e.jsonMessage)

end MetaGraph.Field

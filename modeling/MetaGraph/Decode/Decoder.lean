/-
Decoders of single values: numbers within their range, texts, lists, maps,
optional values and names from a fixed choice.
-/
import MetaGraph.Decimal.Power
import MetaGraph.Decode.Error

namespace MetaGraph

/-- Reads a value of type `α` out of data of a given origin. -/
abbrev Decoder (α : Type) := Origin → Datum → Except DecodeError α

namespace Decoder

def mismatch {α : Type} (expected : String) (d : Datum) : Except DecodeError α :=
  .error (.invalidType d.found expected)

def string : Decoder String
  | _, .text s => .ok s
  | _, .char c => .ok c.toString
  | _, d => mismatch "a string" d

def bool : Decoder Bool
  | _, .bool b => .ok b
  | _, d => mismatch "a boolean" d

/-- An integer between `lo` and `hi`, called `name` in faults. -/
def integer (name : String) (lo hi : Int) : Decoder Int
  | _, .integer signed n =>
    if lo ≤ n ∧ n ≤ hi then .ok n
    else .error (.invalidValue (Datum.integer signed n).found name)
  | _, d => mismatch name d

def i64 : Decoder Int := integer "i64" (-9223372036854775808) 9223372036854775807

/-- A natural number below `2^bits`, called `name` in faults. -/
def natural (name : String) (bits : Nat) : Decoder Nat := fun origin d =>
  (integer name 0 ((twoTo bits : Int) - 1) origin d).map Int.toNat

def u16 : Decoder Nat := natural "u16" 16
def u32 : Decoder Nat := natural "u32" 32
def u64 : Decoder Nat := natural "u64" 64
def usize : Decoder Nat := natural "usize" 64

def binary64 : Decoder Binary64
  | _, .float x => .ok x
  | _, .integer _ n => .ok (Binary64.ofInt n)
  | _, d => mismatch "f64" d

/-- The text of a path. -/
def path : Decoder String
  | _, .text s => .ok s
  | _, d => mismatch "path string" d

/-- Any value at all. -/
def json : Decoder Json := fun _ d => .ok d.toJson

/-- Nothing for an empty value. -/
def option {α : Type} (item : Decoder α) : Decoder (Option α)
  | _, .empty => .ok none
  | origin, d => (item origin d).map some

def list {α : Type} (item : Decoder α) : Decoder (List α)
  | origin, .list items => items.mapM (item origin)
  | _, d => mismatch "a sequence" d

def keyMap {α : Type} (item : Decoder α) : Decoder (KeyMap α)
  | origin, .table entries => entries.mapM fun (k, d) => do pure (k, ← item origin d)
  | _, d => mismatch "a map" d

/-- A record. In a configuration an empty value is a record without fields. -/
def record : Decoder Record
  | _, .table entries => .ok (Datum.toMembers entries)
  | .config, .empty => .ok []
  | _, d => mismatch "a map" d

/-- A JSON document holds no items beyond those that are read. -/
def noMore (origin : Origin) (read : Nat) (items : List Datum) : Except DecodeError Unit :=
  if origin = .json ∧ read < items.length then
    .error (.invalidLength items.length "fewer elements in array")
  else .ok ()

/-- Two values of one kind in a list. -/
def pair {α : Type} (item : Decoder α) : Decoder (α × α)
  | origin, .list items =>
    match items with
    | [] => .error (.invalidLength 0 "a tuple of size 2")
    | a :: rest => do
      let a ← item origin a
      match rest with
      | [] => .error (.invalidLength 1 "a tuple of size 2")
      | b :: _ =>
        let b ← item origin b
        noMore origin 2 items
        pure (a, b)
  | _, d => mismatch "a tuple of size 2" d

/-- The value a name stands for. -/
def ofName {α : Type} (choices : List (String × α)) (name : String) : Except DecodeError α :=
  match choices.lookup name with
  | some a => .ok a
  | none => .error (.unknownVariant name (choices.map Prod.fst))

/-- A value without content, as it follows the name in a table of one entry. -/
def unit : Decoder Unit
  | _, .empty => .ok ()
  | _, d => mismatch "unit" d

/-- One of several names; the type is called `name` in faults. A table of one
entry may stand for the name of the entry. -/
def choice {α : Type} (name : String) (choices : List (String × α)) : Decoder α
  | _, .text s => ofName choices s
  | .json, .table [(k, d)] => do
    let a ← ofName choices k
    unit .json d
    pure a
  | .json, .table _ => .error (.invalidValue .map "map with a single key")
  | .json, d => mismatch "string or map" d
  | .config, .table ((k, d) :: _) => do
    let a ← ofName choices k
    unit .config d
    pure a
  | .config, .table [] => .error (.invalidType .map "enum")
  | .config, d => mismatch ("enum " ++ name) d

end Decoder

end MetaGraph

/-
Faults found while decoding, and their two wordings: one for JSON documents,
one for configurations.
-/
import MetaGraph.Decimal.Shortest
import MetaGraph.Decode.Datum
import MetaGraph.Text.Quoted

namespace MetaGraph

/-- What was found where something else was expected. -/
inductive Found where
  | unit
  | bool (b : Bool)
  | signed (n : Int)
  | unsigned (n : Int)
  | float (x : Binary64)
  | char (c : Char)
  | text (s : String)
  | sequence
  | map
deriving DecidableEq, Repr

def Datum.found : Datum → Found
  | .empty => .unit
  | .bool b => .bool b
  | .integer true n => .signed n
  | .integer false n => .unsigned n
  | .float x => .float x
  | .char c => .char c
  | .text s => .text s
  | .list _ => .sequence
  | .table _ => .map

/-- A fault of a piece of data. -/
inductive DecodeError where
  | invalidType (found : Found) (expected : String)
  | invalidValue (found : Found) (expected : String)
  | invalidLength (length : Nat) (expected : String)
  | unknownVariant (variant : String) (expected : List String)
  | missingField (field : String)
  | custom (text : String)
deriving DecidableEq, Repr

def Found.jsonText : Found → String
  | unit => "null"
  | bool b => s!"boolean `{b}`"
  | signed n | unsigned n => s!"integer `{n}`"
  | float x => "floating point `" ++ x.text .json ++ "`"
  | char c => s!"character `{c}`"
  | text s => "string " ++ Text.quoted s
  | sequence => "sequence"
  | map => "map"

def Found.configText : Found → String
  | unit => "unit"
  | bool b => s!"bool {b}"
  | signed n => s!"signed int `{n}`"
  | unsigned n => s!"unsigned int `{n}`"
  | float x => "float `" ++ x.text .plain ++ "`"
  | char c => "char '" ++ String.ofList (Text.quotedChar c) ++ "'"
  | text s => "string " ++ Text.quoted s
  | sequence => "sequence"
  | map => "map"

/-- The names a value may have, each between backquotes. -/
def oneOf (names : List String) : String :=
  let marked := names.map fun n => "`" ++ n ++ "`"
  match marked with
  | [] => "there are no variants"
  | [a] => a
  | [a, b] => a ++ " or " ++ b
  | names => "one of " ++ ", ".intercalate names

namespace DecodeError

/-- The wording for JSON documents. -/
def jsonMessage : DecodeError → String
  | invalidType found expected => s!"invalid type: {found.jsonText}, expected {expected}"
  | invalidValue found expected => s!"invalid value: {found.jsonText}, expected {expected}"
  | invalidLength length expected => s!"invalid length {length}, expected {expected}"
  | unknownVariant variant expected => s!"unknown variant `{variant}`, expected {oneOf expected}"
  | missingField field => s!"missing field `{field}`"
  | custom text => text

/-- The wording for configurations. -/
def configMessage : DecodeError → String
  | invalidType found expected => s!"invalid type: found {found.configText}, expected {expected}"
  | invalidValue found expected => s!"invalid value {found.configText}, expected {expected}"
  | invalidLength length expected => s!"invalid length {length}, expected {expected}"
  | unknownVariant variant expected =>
    s!"unknown variant: found `{variant}`, expected `{oneOf expected}`"
  | missingField field => s!"missing field `{field}`"
  | custom text => text

/-- The wording for data of the given origin. -/
def message (origin : Origin) (e : DecodeError) : String :=
  match origin with
  | .json => e.jsonMessage
  | .config => e.configMessage

end DecodeError

end MetaGraph

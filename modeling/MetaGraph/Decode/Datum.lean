/-
Data as a decoder meets it, whether it comes from a JSON document or from a
configuration. Integers remember whether their origin counts them as signed;
a table keeps its entries in the order of their names.
-/
import MetaGraph.Json.Basic

namespace MetaGraph

/-- A piece of data to be decoded. -/
inductive Datum where
  | empty
  | bool (b : Bool)
  | integer (signed : Bool) (n : Int)
  | float (x : Binary64)
  | char (c : Char)
  | text (s : String)
  | list (items : List Datum)
  | table (entries : List (String × Datum))
deriving Repr, Inhabited

/-- Where data comes from. It settles the wording of faults and how strictly
sequences are taken. -/
inductive Origin where
  | json
  | config
deriving DecidableEq, Repr

mutual

/-- A JSON value as data: its non-negative integers count as unsigned. -/
def Json.toDatum : Json → Datum
  | .null => .empty
  | .bool b => .bool b
  | .int n => .integer (decide (n < 0)) n
  | .float x => .float x
  | .text s => .text s
  | .array items => .list (Json.toData items)
  | .object members => .table (Json.toEntries members)

def Json.toData : List Json → List Datum
  | [] => []
  | x :: xs => x.toDatum :: Json.toData xs

def Json.toEntries : List (String × Json) → List (String × Datum)
  | [] => []
  | (k, x) :: xs => (k, x.toDatum) :: Json.toEntries xs

end

mutual

/-- Data as a JSON value; a number that JSON cannot write becomes null. -/
def Datum.toJson : Datum → Json
  | .empty => .null
  | .bool b => .bool b
  | .integer _ n => .int n
  | .float x => Json.ofBinary64 x
  | .char c => .text c.toString
  | .text s => .text s
  | .list items => .array (Datum.toItems items)
  | .table entries => .object (Datum.toMembers entries)

def Datum.toItems : List Datum → List Json
  | [] => []
  | x :: xs => x.toJson :: Datum.toItems xs

def Datum.toMembers : List (String × Datum) → List (String × Json)
  | [] => []
  | (k, x) :: xs => (k, x.toJson) :: Datum.toMembers xs

end

mutual

/-- A tree laid over another: tables are united entry by entry, anything else
is replaced. -/
def Datum.overlay : Datum → Datum → Datum
  | .table old, .table new => .table (Datum.overlayEntries old new)
  | _, new => new

/-- The entries of two tables united; where both have an entry, the new one is
laid over the old one. -/
def Datum.overlayEntries (old : List (String × Datum)) :
    List (String × Datum) → List (String × Datum)
  | [] => old
  | (k, new) :: rest =>
    let value :=
      match KeyMap.get? old k with
      | some value => Datum.overlay value new
      | none => new
    Datum.overlayEntries (KeyMap.insert k value old) rest

end

/-- The value reached by descending through tables along a dotted path. An empty
step ends the descent. -/
def Datum.descend? : List String → Datum → Option Datum
  | [], d => some d
  | step :: steps, d =>
    if step = "" then some d
    else
      match d with
      | .table entries =>
        match KeyMap.get? entries step with
        | some d => descend? steps d
        | none => none
      | _ => none

end MetaGraph

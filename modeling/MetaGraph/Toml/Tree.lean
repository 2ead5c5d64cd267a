/-
The tables of a TOML document while it is read. A table can be named by its
own heading once, and by dotted keys only where these made it; a value in
brackets or braces is closed for good.
-/
import MetaGraph.Decode.Datum

namespace MetaGraph.Toml

/-- What stands at a key. -/
inductive Tree where
  /-- A value that nothing can be added to. -/
  | value (d : Datum)
  /-- A table; `implied` if only a key or heading below it has named it so far,
  `dotted` if a dotted key made it. -/
  | table (implied dotted : Bool) (entries : List (String × Tree))
  /-- A list of tables: those that are finished, and the last one. -/
  | rows (finished : List Datum) (last : List (String × Tree))

/-- The keys of a table with what stands at them. -/
abbrev Entries := List (String × Tree)

mutual

def Tree.toDatum : Tree → Datum
  | .value d => d
  | .table _ _ entries => .table (toFields entries)
  | .rows finished last => .list (finished ++ [.table (toFields last)])

/-- The finished values of a table. -/
def toFields : List (String × Tree) → List (String × Datum)
  | [] => []
  | (k, t) :: rest => (k, t.toDatum) :: toFields rest

end

namespace Entries

/-- Changes the table at the end of a path by `change`, which is told whether a
dotted key made the table. Tables missing on the way are made; `dotted` says
whether the path is a dotted key, which may not enter a table with a heading
of its own. -/
def within (dotted : Bool) (change : Bool → Entries → Option Entries) :
    Bool → List String → Entries → Option Entries
  | made, [], es => change made es
  | _, k :: ks, es => do
    let changed ←
      match KeyMap.get? es k with
      | none => (within dotted change dotted ks []).map (Tree.table true dotted)
      | some (.value _) => none
      | some (.rows finished last) => (within dotted change false ks last).map (Tree.rows finished)
      | some (.table implied made es) =>
        if dotted && !implied then none
        else (within dotted change made ks es).map (Tree.table implied made)
    some (KeyMap.insert k changed es)

/-- Sets a key, dotted or not, that is not yet set. -/
def assign (key : List String × String) (d : Datum) (es : Entries) : Option Entries :=
  within true
    (fun made es =>
      if made = key.1.isEmpty ∨ KeyMap.contains es key.2 then none
      else some (KeyMap.insert key.2 (.value d) es))
    false key.1 es

/-- A key, as the steps to its table and its name there, with a value. -/
abbrev Assignment := (List String × String) × Datum

def assignAll (es : Entries) (assignments : List Assignment) : Option Entries :=
  assignments.foldlM (fun es a => assign a.1 a.2 es) es

end Entries

/-- A heading: the path of a table, or of a list of tables that gets one more. -/
structure Heading where
  isRow : Bool
  path : List String
  name : String
deriving DecidableEq, Repr

/-- The assignments under a heading. -/
structure Section where
  heading : Heading
  assignments : List Entries.Assignment

namespace Entries

/-- Adds a section to the tables of a document. -/
def addSection (es : Entries) (s : Section) : Option Entries :=
  within false
    (fun _ es => do
      let changed ←
        match KeyMap.get? es s.heading.name, s.heading.isRow with
        | none, true => (assignAll [] s.assignments).map (Tree.rows [])
        | some (.rows finished last), true =>
          (assignAll [] s.assignments).map
            (Tree.rows (finished ++ [.table (toFields last)]))
        | none, false => (assignAll [] s.assignments).map (Tree.table false false)
        | some (.table true false old), false =>
          (assignAll old s.assignments).map (Tree.table false false)
        | _, _ => none
      some (KeyMap.insert s.heading.name changed es))
    false s.heading.path es

end Entries

end MetaGraph.Toml

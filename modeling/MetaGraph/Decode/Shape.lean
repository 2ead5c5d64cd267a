/-
Decoders of structures with named fields. A shape knows the names of its
fields in their order. A table is first gone through entry by entry, in the
order of its names, so that the first faulty entry is the one reported; then
the fields are taken in their order, a missing one falling back to its
default. A list is taken field by field.
-/
import MetaGraph.Decode.Decoder

namespace MetaGraph

/-- The source of one field while a structure is put together. -/
structure FieldSource where
  origin : Origin
  /-- The data given for a field, by position and name. -/
  given : Nat → String → Option Datum
  /-- The fault of a field that is needed and not given. -/
  missing : Nat → String → DecodeError

/-- How a structure is put together out of named fields. -/
structure Shape (α : Type) where
  names : List String
  /-- The fault of a single entry. -/
  check : Origin → String → Datum → Except DecodeError Unit
  /-- The structure, its first field standing at the given position. -/
  build : FieldSource → Nat → Except DecodeError α

namespace Shape

variable {α β : Type}

/-- A structure without fields. -/
def done (a : α) : Shape α := ⟨[], fun _ _ _ => .ok (), fun _ _ => .ok a⟩

def checkField (name : String) (item : Decoder β) (origin : Origin) (entry : String) (d : Datum) :
    Except DecodeError Unit :=
  if entry = name then (item origin d).map fun _ => () else .ok ()

/-- One more field, the last one, with what to do when it is not given. -/
def andField (s : Shape (β → α)) (name : String) (item : Decoder β)
    (fallback : Option β) : Shape α where
  names := s.names ++ [name]
  check origin entry d := do
    s.check origin entry d
    checkField name item origin entry d
  build source start := do
    let f ← s.build source start
    let position := start + s.names.length
    match source.given position name with
    | some d => f <$> item source.origin d
    | none =>
      match fallback with
      | some b => pure (f b)
      | none => throw (source.missing position name)

/-- One more field, which has to be given. -/
def required (s : Shape (β → α)) (name : String) (item : Decoder β) : Shape α :=
  s.andField name item none

/-- One more field, with the value it has when it is not given. -/
def optional (s : Shape (β → α)) (name : String) (item : Decoder β) (value : β) : Shape α :=
  s.andField name item (some value)

/-- The structure held by the entries of a table. -/
def ofEntries (s : Shape α) (origin : Origin) (entries : List (String × Datum)) :
    Except DecodeError α := do
  entries.forM fun (k, d) => s.check origin k d
  s.build ⟨origin, fun _ name => KeyMap.get? entries name, fun _ name => .missingField name⟩ 0

/-- The structure held by the items of a list; `title` names it in faults. -/
def ofItems (s : Shape α) (title : String) (origin : Origin) (items : List Datum) :
    Except DecodeError α := do
  let count := s.names.length
  let plural := if count = 1 then "element" else "elements"
  let a ← s.build ⟨origin, fun i _ => items[i]?,
    fun i _ => .invalidLength i s!"{title} with {count} {plural}"⟩ 0
  Decoder.noMore origin count items
  pure a

/-- The decoder of a structure; `title` names it in faults. -/
def decoder (s : Shape α) (title : String) : Decoder α
  | origin, .table entries => s.ofEntries origin entries
  | origin, .list items => s.ofItems title origin items
  | _, d => Decoder.mismatch title d

end Shape

end MetaGraph

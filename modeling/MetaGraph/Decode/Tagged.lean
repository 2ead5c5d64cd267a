/-
Decoders of values of several forms, told apart by a tag: an entry of the
table, or the first item of the list, that holds them.
-/
import MetaGraph.Decode.Shape

namespace MetaGraph.Decoder

variable {α : Type}

/-- The form a tag stands for. In a configuration a number may stand for the
form at its place. -/
def form (forms : List (String × Shape α)) : Decoder (Shape α)
  | _, .text s => ofName forms s
  | .config, .integer false n =>
    match forms[n.toNat]? with
    | some (_, shape) => .ok shape
    | none =>
      .error (.invalidValue (.unsigned n) s!"variant index 0 <= i < {forms.length}")
  | _, d => mismatch "variant identifier" d

/-- The items after the tag, none of which may be left over. -/
def itemsOf (shape : Shape α) (origin : Origin) (items : List Datum) : Except DecodeError α := do
  let count := shape.names.length
  let a ← shape.build ⟨origin, fun i _ => items[i]?, fun _ name => .missingField name⟩ 0
  if count < items.length then
    let plural := if count = 1 then "element" else "elements"
    throw (.invalidLength items.length s!"{count} {plural} in sequence")
  else pure a

/-- A value whose form the entry `tag` names; `title` names the type in faults. -/
def tagged (tag title : String) (forms : List (String × Shape α)) : Decoder α
  | origin, .table entries =>
    match KeyMap.get? entries tag with
    | some d => do (← form forms origin d).ofEntries origin (KeyMap.erase entries tag)
    | none => .error (.missingField tag)
  | origin, .list (d :: items) => do itemsOf (← form forms origin d) origin items
  | _, .list [] => .error (.missingField tag)
  | _, d => mismatch ("internally tagged enum " ++ title) d

end MetaGraph.Decoder

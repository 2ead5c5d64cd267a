/-
The names under which models can be asked for. A name is looked up once,
when a component is set up, so an unknown name is a fault of the
configuration and not of a record.
-/
import MetaGraph.Model.Basic

namespace MetaGraph

/-- Registered names with the kinds they stand for, in the order of the names. -/
structure Registry where
  kinds : KeyMap ModelKind := []
deriving DecidableEq, Repr

namespace Registry

def empty : Registry := {}

/-- Every kind under its own name. -/
def builtin : Registry := ⟨KeyMap.ofList (ModelKind.all.map fun k => (k.name, k))⟩

/-- Adds a name, which must not be taken yet. -/
def register (r : Registry) (name : String) (kind : ModelKind) : Except ModelError Registry :=
  if r.kinds.contains name then .error (.alreadyRegistered name)
  else .ok ⟨r.kinds.insert name kind⟩

def resolve (r : Registry) (name : String) : Except ModelError ModelKind :=
  match r.kinds.get? name with
  | some kind => .ok kind
  | none => .error (.unknownModel name)

/-- The registered names in their order. -/
def names (r : Registry) : List String := r.kinds.map Prod.fst

def size (r : Registry) : Nat := r.kinds.length

/-- Builds the model registered under `name` from a record. -/
def build (r : Registry) (name : String) (record : Record) (claims : Claims) :
    Except ModelError (Model × Claims) := do
  (← r.resolve name).build record claims

end Registry

end MetaGraph

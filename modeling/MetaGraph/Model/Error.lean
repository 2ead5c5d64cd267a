/-
Why a model cannot be built, found or registered.
-/

namespace MetaGraph

/-- A fault in building or naming a model. -/
inductive ModelError where
  | invalidRecord (model message : String)
  | invalidValue (model field message : String)
  | unknownModel (name : String)
  | alreadyRegistered (name : String)
deriving DecidableEq, Repr

def ModelError.message : ModelError → String
  | invalidRecord model message => s!"Cannot build '{model}' from record: {message}"
  | invalidValue model field message => s!"Invalid value for '{model}.{field}': {message}"
  | unknownModel name => s!"Unknown model class: {name}"
  | alreadyRegistered name => s!"Model class already registered: {name}"

end MetaGraph

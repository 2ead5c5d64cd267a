/-
Why a job cannot be configured.
-/
import MetaGraph.Model.Error

namespace MetaGraph

/-- A fault in the configuration of a job. -/
inductive ConfigError where
  | fileNotFound (path : String)
  | invalid (scope message : String)
  | missingField (field : String)
  | parseError (message : String)
  | unknownComponent (kind name : String)
  | model (e : ModelError)
deriving DecidableEq, Repr

def ConfigError.message : ConfigError → String
  | fileNotFound path => s!"Configuration file not found: {path}"
  | invalid scope message => s!"Invalid configuration for '{scope}': {message}"
  | missingField field => s!"Missing required field: {field}"
  | parseError message => s!"Configuration parse error: {message}"
  | unknownComponent kind name => s!"Unknown component '{name}' for {kind}"
  | model e => e.message

end MetaGraph

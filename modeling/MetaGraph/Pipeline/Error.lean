/-
Why a stage of the pipeline failed. Some faults concern a single record and
let the run go on; the others end it.
-/
import MetaGraph.Config.Error
import MetaGraph.Csv.Reader
import MetaGraph.Graph.Validity
import MetaGraph.Rest.Error

namespace MetaGraph

/-- Why a payload could not be extracted. -/
inductive ExtractError where
  /-- One record could not be produced; the source can go on. -/
  | record (message : String)
  /-- One record could not be bound to its model. -/
  | model (e : ModelError)
  | source (name message : String)
  /-- The source failed with a fault of its own. -/
  | rest (name : String) (e : RestError)
  | io (e : FileError)
deriving DecidableEq, Repr

namespace ExtractError

def message : ExtractError → String
  | record text => s!"Failed to extract record: {text}"
  | model e => e.message
  | source name text => s!"Source '{name}' failed: {text}"
  | rest name e => s!"Source '{name}' failed: {e.message}"
  | io e => s!"IO error: {e.message}"

/-- Whether only the current record is lost. -/
def isRecordLevel : ExtractError → Bool
  | record _ | model _ => true
  | _ => false

def isModelError : ExtractError → Bool
  | model _ => true
  | _ => false

/-- The name of the source whose faults are REST errors. -/
def restSource : String := "restapi"

/-- A fault of the REST source. -/
def ofRest (e : RestError) : ExtractError := .rest restSource e

end ExtractError

/-- Why a payload could not be transformed. -/
inductive TransformError where
  | model (e : ModelError)
  | field (name message : String)
  | template (e : TemplateError)
  | unsupportedPayload (scope payload : String)
deriving DecidableEq, Repr

namespace TransformError

def message : TransformError → String
  | model e => e.message
  | field name text => s!"Field '{name}': {text}"
  | template e => e.message
  | unsupportedPayload scope payload => s!"Transformer '{scope}' cannot handle {payload} payloads"

def isModelError : TransformError → Bool
  | model _ => true
  | _ => false

end TransformError

/-- Why a payload could not be loaded. -/
inductive LoadError where
  | graph (e : GraphError)
  | unsupportedPayload (scope payload : String)
  | csv (e : Csv.CsvError)
  | io (e : FileError)
deriving DecidableEq, Repr

namespace LoadError

def message : LoadError → String
  | graph e => e.message
  | unsupportedPayload scope payload => s!"Loader '{scope}' cannot handle {payload} payloads"
  | csv e => s!"CSV error: {e.message}"
  | io e => s!"IO error: {e.message}"

/-- Whether only the current payload is lost. -/
def isRecordLevel : LoadError → Bool
  | unsupportedPayload .. => true
  | _ => false

end LoadError

/-- Why the output of a run could not be published. -/
inductive PublishError where
  | missingColumn (column path : String)
  | invalidUnquotedValue (column value path : String)
  | csv (e : Csv.CsvError)
  | io (e : FileError)
deriving DecidableEq, Repr

def PublishError.message : PublishError → String
  | missingColumn column path => s!"Missing column '{column}' in {path}"
  | invalidUnquotedValue column value path =>
    s!"Column '{column}' in {path} must hold a number or a boolean, got {Text.quoted value}"
  | csv e => s!"CSV error: {e.message}"
  | io e => s!"IO error: {e.message}"

/-- Why a task or a job failed. -/
inductive PipelineError where
  | invalidState (start target : String)
  | config (e : ConfigError)
  | extract (e : ExtractError)
  | transform (e : TransformError)
  | load (e : LoadError)
  | publish (e : PublishError)
deriving DecidableEq, Repr

def PipelineError.message : PipelineError → String
  | invalidState start target => s!"Invalid task state transition from {start} to {target}"
  | config e => e.message
  | extract e => s!"Extraction failed: {e.message}"
  | transform e => s!"Transformation failed: {e.message}"
  | load e => s!"Loading failed: {e.message}"
  | publish e => s!"Publishing failed: {e.message}"

/-- Any fault of the library. -/
inductive Fault where
  | graph (e : GraphError)
  | model (e : ModelError)
  | config (e : ConfigError)
  | pipeline (e : PipelineError)
  | io (e : FileError)
deriving DecidableEq, Repr

def Fault.message : Fault → String
  | graph e => s!"Graph error: {e.message}"
  | model e => s!"Model error: {e.message}"
  | config e => s!"Configuration error: {e.message}"
  | pipeline e => s!"Pipeline error: {e.message}"
  | io e => s!"IO error: {e.message}"

/-! ## What lies behind an error -/

/-- The fault behind one of a CSV file, which does not tell a position. -/
def Csv.CsvError.causes : Csv.CsvError → List String
  | .io e => [e.message]
  | .notText _ field valid => [s!"invalid utf-8: invalid UTF-8 in field {field} near byte index {valid}"]
  | .unequalLengths .. => []

def ExtractError.causes : ExtractError → List String
  | .rest _ e => [e.message]
  | .io e => [e.message]
  | _ => []

def LoadError.causes : LoadError → List String
  | .csv e => e.message :: e.causes
  | .io e => [e.message]
  | _ => []

def PublishError.causes : PublishError → List String
  | .csv e => e.message :: e.causes
  | .io e => [e.message]
  | _ => []

/-- The messages behind the error, the nearest first. -/
def PipelineError.causes : PipelineError → List String
  | .invalidState .. | .config _ => []
  | .extract e => e.message :: e.causes
  | .transform e => [e.message]
  | .load e => e.message :: e.causes
  | .publish e => e.message :: e.causes

end MetaGraph

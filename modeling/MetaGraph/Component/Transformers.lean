/-
The transformations of records: binding them to a model, filling a template
with their fields, and turning a timestamp into seconds.
-/
import MetaGraph.Component.RunState
import MetaGraph.Pipeline.Stage
import MetaGraph.Time.Reader

namespace MetaGraph

variable {ν : Type}

/-- A transformation of records alone. -/
def recordTransform (scope : String)
    (f : Record → RunState ν → Except TransformError Payload × RunState ν) :
    Transform (RunState ν) := fun p s =>
  match p with
  | .record r =>
    let (result, s) := f r s
    (result.map some, s)
  | .model m => (.error (.unsupportedPayload scope m.name), s)

/-- A transformation that changes a record and nothing else. -/
def recordChange (scope : String) (f : Record → Except TransformError Record) :
    Transform (RunState ν) :=
  recordTransform scope fun r s => ((f r).map .record, s)

/-- Setting up a transformation that needs nothing but its settings. -/
def setUpFrom {α : Type} (settings : Settings α) (prepare : Scope → RunContext → α →
    Except ConfigError (Transform (RunState ν))) : SetUp (RunState ν) (Transform (RunState ν)) :=
  fun scope ctx s =>
    match scope.extract settings with
    | .error e => (.error e, s)
    | .ok c => (prepare scope ctx c, s)

/-- A setting that must not be empty. -/
def needed (scope : Scope) (name value : String) : Except ConfigError Unit :=
  if value = "" then .error (.missingField (scope.pathOf name)) else .ok ()

/-! ## Binding -/

/-- The settings of the binding. -/
structure DictToModelConfig where
  modelClass : String := ""
deriving DecidableEq, Repr, Inhabited

namespace DictToModelConfig

def toJson (c : DictToModelConfig) : Json := .object [("model_class", .text c.modelClass)]

def settings : Settings DictToModelConfig where
  shape := Shape.done mk |>.optional "model_class" Decoder.string ""
  defaults := Settings.entries (toJson {})

end DictToModelConfig

namespace DictToModel

def scopeName : String := "transformer.dict_to_model"

def bind (kind : ModelKind) : Transform (RunState ν) :=
  recordTransform scopeName fun r s =>
    let (p, s) := s.bind (some kind) r
    (p.mapError TransformError.model, s)

end DictToModel

/-- Binds records to a model. -/
def dictToModel : Transformer (RunState ν) where
  scope := DictToModel.scopeName
  idle :=
    recordTransform DictToModel.scopeName fun _ s =>
      (.error (.field "model_class" "transformer used before init"), s)
  setUp := setUpFrom DictToModelConfig.settings fun scope ctx c => do
    needed scope "model_class" c.modelClass
    let kind ← (ctx.registry.resolve c.modelClass).mapError ConfigError.model
    pure (DictToModel.bind kind)

/-! ## Templates -/

/-- The settings of a template. -/
structure TemplateVariableConfig where
  template : String := ""
  /-- The field that takes the text. -/
  fieldName : String := ""
deriving DecidableEq, Repr, Inhabited

namespace TemplateVariableConfig

def toJson (c : TemplateVariableConfig) : Json :=
  .object [("field_name", .text c.fieldName), ("template", .text c.template)]

def settings : Settings TemplateVariableConfig where
  shape :=
    Shape.done mk
      |>.optional "template" Decoder.string ""
      |>.optional "field_name" Decoder.string ""
  defaults := Settings.entries (toJson {})

/-- The record with the filled template in its field. -/
def fill (c : TemplateVariableConfig) (r : Record) : Except TransformError Record :=
  match Template.render c.template r with
  | .ok text => .ok (r.insert c.fieldName (.text text))
  | .error e => .error (.template e)

end TemplateVariableConfig

namespace TemplateVariable

def scopeName : String := "transformer.template_variable_substitution"

end TemplateVariable

/-- Fills a template with the fields of a record. -/
def templateVariable : Transformer (RunState ν) where
  scope := TemplateVariable.scopeName
  idle := recordChange TemplateVariable.scopeName (TemplateVariableConfig.fill {})
  setUp := setUpFrom TemplateVariableConfig.settings fun scope _ c => do
    needed scope "template" c.template
    needed scope "field_name" c.fieldName
    pure (recordChange TemplateVariable.scopeName c.fill)

/-! ## Timestamps -/

/-- The format of a timestamp in universal time. -/
def defaultTimestampFormat : String := "%Y-%m-%dT%H:%M:%SZ"

/-- The settings of a timestamp's field. -/
structure TimestampConfig where
  fieldName : String := ""
  timestampFormat : String := defaultTimestampFormat
deriving DecidableEq, Repr, Inhabited

namespace TimestampConfig

def toJson (c : TimestampConfig) : Json :=
  .object [("field_name", .text c.fieldName), ("timestamp_format", .text c.timestampFormat)]

def settings : Settings TimestampConfig where
  shape :=
    Shape.done mk
      |>.optional "field_name" Decoder.string ""
      |>.optional "timestamp_format" Decoder.string defaultTimestampFormat
  defaults := Settings.entries (toJson {})

/-- The seconds since the start of 1970 that a timestamp names: by the format, or else
as a whole timestamp with its offset. -/
def toEpoch (c : TimestampConfig) (timestamp : String) : Except TransformError Int :=
  match Time.byFormat? c.timestampFormat timestamp with
  | some t => .ok t
  | none =>
    match Time.standard timestamp with
    | .ok t => .ok t
    | .error e =>
      .error (.field c.fieldName (Text.quoted timestamp ++ " does not match " ++
        Text.quoted c.timestampFormat ++ ": " ++ e.message))

/-- The record with seconds in place of the timestamp; a record without one stays as
it is. -/
def convert (c : TimestampConfig) (r : Record) : Except TransformError Record :=
  match r.get? c.fieldName with
  | some (.text timestamp) =>
    if timestamp = "" then .ok r
    else (c.toEpoch timestamp).map fun t => r.insert c.fieldName (.int t)
  | _ => .ok r

end TimestampConfig

namespace TimestampToEpoch

def scopeName : String := "transformer.timestamp_str_to_epoch"

end TimestampToEpoch

/-- Turns the timestamp in a field into seconds. -/
def timestampToEpoch : Transformer (RunState ν) where
  scope := TimestampToEpoch.scopeName
  idle := recordChange TimestampToEpoch.scopeName (TimestampConfig.convert {})
  setUp := setUpFrom TimestampConfig.settings fun scope _ c => do
    needed scope "field_name" c.fieldName
    pure (recordChange TimestampToEpoch.scopeName c.convert)

end MetaGraph

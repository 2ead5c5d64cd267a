/-
Jobs put together from the components that their settings name.
-/
import MetaGraph.Component.BulkLoader
import MetaGraph.Component.Publishers
import MetaGraph.Component.RestExtractor
import MetaGraph.Component.Transformers
import MetaGraph.Config.JobSpec
import MetaGraph.Pipeline.Job

namespace MetaGraph.Assembly

variable {ν : Type}

def extractor (net : Network ν) (name : String) : Except ConfigError (Extractor (RunState ν)) :=
  match name with
  | "csv" => .ok csvExtractor
  | "restapi" => .ok (restExtractor net)
  | _ => .error (.unknownComponent "extractor" name)

def transformer (name : String) : Except ConfigError (Transformer (RunState ν)) :=
  match name with
  | "dict_to_model" => .ok dictToModel
  | "template_variable_substitution" => .ok templateVariable
  | "timestamp_str_to_epoch" => .ok timestampToEpoch
  | _ => .error (.unknownComponent "transformer" name)

def loader (name : String) : Except ConfigError (Loader (RunState ν)) :=
  match name with
  | "filesystem_csv" => .ok bulkLoader
  | _ => .error (.unknownComponent "loader" name)

def publisher (name : String) : Except ConfigError (Publisher (RunState ν)) :=
  match name with
  | "noop" => .ok noopPublisher
  | "cypher" => .ok cypherPublisher
  | _ => .error (.unknownComponent "publisher" name)

/-- The job that the settings describe. -/
def job (net : Network ν) (config : JobConfig) : Except ConfigError (Job (RunState ν)) := do
  let spec ← config.job
  let source ← extractor net spec.extractor
  let sink ← loader spec.loader
  let members ← spec.transformers.mapM transformer
  let target ← publisher spec.publisher
  pure {
    identifier := spec.identifier
    config
    task := { extractor := source, transformer := Transformer.ofList members, loader := sink }
    publisher := target }

end MetaGraph.Assembly

/-
Which components make up a job: the section `job` of its settings.
-/
import MetaGraph.Config.Tree

namespace MetaGraph

/-- The components of a job, by name. -/
structure JobSpec where
  identifier : String
  extractor : String
  transformers : List String
  loader : String
  publisher : String
deriving DecidableEq, Repr, Inhabited

namespace JobSpec

def shape : Shape JobSpec :=
  (Shape.done JobSpec.mk)
    |>.optional "identifier" Decoder.string "databuilder-job"
    |>.required "extractor" Decoder.string
    |>.optional "transformers" (Decoder.list Decoder.string) []
    |>.optional "loader" Decoder.string "filesystem_csv"
    |>.optional "publisher" Decoder.string "noop"

def decoder : Decoder JobSpec := shape.decoder "struct JobSpec"

/-- The written form of a job's components. -/
def toJson (s : JobSpec) : Json :=
  .object [("extractor", .text s.extractor), ("identifier", .text s.identifier),
    ("loader", .text s.loader), ("publisher", .text s.publisher),
    ("transformers", Json.texts s.transformers)]

end JobSpec

/-- The components of the job the settings describe. -/
def JobConfig.job (c : JobConfig) : Except ConfigError JobSpec :=
  let result : Except DecodeError JobSpec := do
    let entries ← c.tree
    match KeyMap.get? entries "job" with
    | some d => JobSpec.decoder .config d
    | none => throw (.missingField "job")
  result.mapError fun e => .invalid "job" e.configMessage

end MetaGraph

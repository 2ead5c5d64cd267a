/-
The source that reads a CSV file: one payload for each row, its fields named
by the header.
-/
import MetaGraph.Component.RunState
import MetaGraph.Pipeline.Stage

namespace MetaGraph

/-- The settings of the source. -/
structure CsvExtractorConfig where
  fileLocation : String := ""
  /-- The model to which rows are bound. -/
  modelClass : Option String := none
deriving DecidableEq, Repr, Inhabited

namespace CsvExtractorConfig

def toJson (c : CsvExtractorConfig) : Json :=
  .object [("file_location", .text c.fileLocation),
    ("model_class", Json.ofOption .text c.modelClass)]

def settings : Settings CsvExtractorConfig where
  shape :=
    Shape.done mk
      |>.optional "file_location" Decoder.path ""
      |>.optional "model_class" (Decoder.option Decoder.string) none
  defaults := Settings.entries (toJson {})

end CsvExtractorConfig

namespace CsvExtractor

variable {ν : Type}

/-- The record of a row; of two columns with one name the later counts. -/
def record (header row : List String) : Record :=
  KeyMap.ofList ((header.zip row).map fun (name, cell) => (name, .text cell))

/-- The fault of a row, which is known by its number. -/
def rowFault (scope : String) (count : Nat) : Csv.CsvError → ExtractError
  | .io e => .source scope e.message
  | e => .record s!"row {count}: {e.message}"

/-- Reads the next row. -/
def extract (scope : String) (kind : Option ModelKind) : Extract (RunState ν) := fun s =>
  match s.source with
  | .rows reader header count =>
    match reader.next with
    | (.ok none, _) => (.finished, { s with source := .closed })
    | (.ok (some row), reader) =>
      let s := { s with source := .rows reader header (count + 1) }
      match s.bind kind (record header row) with
      | (.ok p, s) => (.payload p, s)
      | (.error e, s) => (.failed (.model e), s)
    | (.error e, reader) =>
      (.failed (rowFault scope (count + 1) e), { s with source := .rows reader header (count + 1) })
  | _ => (.finished, s)

/-- Opens the file and reads its header. -/
def openFile (files : FileStore) (scope path : String) : Except ConfigError Source :=
  match files.find path with
  | .error e => .error (.invalid scope s!"cannot open {path}: {e.message}")
  | .ok (_, .directory) =>
    .error (.invalid scope s!"cannot read header of {path}: {FileError.isADirectory.message}")
  | .ok (_, .file content) =>
    match (Csv.Reader.ofBytes content).header with
    | (.ok header, reader) => .ok (.rows reader header 0)
    | (.error e, _) => .error (.invalid scope s!"cannot read header of {path}: {e.message}")

/-- The kind of model that a name stands for, if one is named. -/
def modelKind (registry : Registry) (name : Option String) : Except ConfigError (Option ModelKind) :=
  (name.mapM registry.resolve).mapError .model

/-- The dotted path of its settings. -/
def scopeName : String := "extractor.csv"

def prepare (scope : Scope) (ctx : RunContext) (files : FileStore) :
    Except ConfigError (Source × Option ModelKind) := do
  let c ← scope.extract CsvExtractorConfig.settings
  if c.fileLocation = "" then throw (.missingField (scope.pathOf "file_location"))
  let source ← openFile files scope.name c.fileLocation
  pure (source, ← modelKind ctx.registry c.modelClass)

end CsvExtractor

/-- The source that reads a CSV file. -/
def csvExtractor {ν : Type} : Extractor (RunState ν) where
  scope := CsvExtractor.scopeName
  idle s := (.finished, s)
  setUp scope ctx s :=
    match CsvExtractor.prepare scope ctx s.files with
    | .error e => (.error e, s)
    | .ok (source, kind) => (.ok (CsvExtractor.extract CsvExtractor.scopeName kind), { s with source })

end MetaGraph

/-
The publishers: one that leaves the output where it is, and one that turns
bulk-load files into a Cypher script that can be run again and again.
-/
import MetaGraph.Component.RunState
import MetaGraph.Cypher.Sheet
import MetaGraph.Pipeline.Stage

namespace MetaGraph

/-- The settings of the script. -/
structure CypherConfig where
  nodeDirectory : String := ""
  relationDirectory : String := ""
  /-- Where the script is written. -/
  outputPath : String := ""
  /-- What elements are marked with; the name of the run, if nothing else is given. -/
  publishedTag : Option String := none
deriving DecidableEq, Repr, Inhabited

namespace CypherConfig

def toJson (c : CypherConfig) : Json :=
  .object [("node_files_directory", .text c.nodeDirectory), ("output_path", .text c.outputPath),
    ("published_tag", Json.ofOption .text c.publishedTag),
    ("relation_files_directory", .text c.relationDirectory)]

def settings : Settings CypherConfig where
  shape :=
    Shape.done mk
      |>.optional "node_files_directory" Decoder.path ""
      |>.optional "relation_files_directory" Decoder.path ""
      |>.optional "output_path" Decoder.path ""
      |>.optional "published_tag" (Decoder.option Decoder.string) none
  defaults := Settings.entries (toJson {})

end CypherConfig

namespace CypherPublisher

/-- The CSV files in a directory, in the order of their names; a directory that does
not exist has none. -/
def csvFiles (s : FileStore) (directory : String) : Except PublishError (List String) :=
  if s.pathExists directory then
    match s.list directory with
    | .error e => .error (.io e)
    | .ok names =>
      let csv := names.filter fun n => Path.extension? n == some "csv"
      .ok ((csv.mergeSort fun a b => decide (a ≤ b)).map (Path.join directory))
  else .ok []

/-- The statements of the sheets in files, file by file. -/
def statements (s : FileStore) (f : Cypher.Sheet → Except PublishError (List Cypher.Statement))
    (paths : List String) : Except PublishError (List Cypher.Statement) := do
  pure (← paths.mapM fun path => do f (← Cypher.Sheet.read s path)).flatten

/-- Writes a text to a file, making the directories on the way to it. -/
def writeOutput (s : FileStore) (path text : String) : Except FileError Unit × FileStore :=
  let prepared :=
    match Path.parent? path with
    | some parent => s.makeDirectories parent
    | none => .ok s
  match prepared with
  | .error e => (.error e, s)
  | .ok s =>
    match s.write path (Utf8.encode text) with
    | .ok s => (.ok (), s)
    | .error e => (.error e, s)

/-- The script of all files, and what it holds. -/
def compile (c : CypherConfig) (tag : String) (s : FileStore) :
    Except PublishError (List Cypher.Statement × PublishReport) := do
  let nodeFiles ← csvFiles s c.nodeDirectory
  let relationFiles ← csvFiles s c.relationDirectory
  let nodes ← statements s (·.nodes tag) nodeFiles
  let relations ← statements s (·.relations tag) relationFiles
  pure (Cypher.script nodes relations, {
    files := nodeFiles.length + relationFiles.length
    nodes := nodes.length
    relations := relations.length
    output := some c.outputPath })

def publish (c : CypherConfig) (tag : String) : Publish FileStore := fun s =>
  match compile c tag s with
  | .error e => (.error e, s)
  | .ok (script, report) =>
    let (written, s) := writeOutput s c.outputPath (Cypher.scriptText script)
    (match written with
      | .ok () => .ok report
      | .error e => .error (.io e), s)

/-- The part of a run's state that the script is made from. -/
def filesPart {ν : Type} : Part (RunState ν) FileStore where
  get s := s.files
  set files s := { s with files }

def prepare (scope : Scope) (ctx : RunContext) : Except ConfigError (Publish FileStore) := do
  let c ← scope.extract CypherConfig.settings
  let needed := [("node_files_directory", c.nodeDirectory),
    ("relation_files_directory", c.relationDirectory), ("output_path", c.outputPath)]
  match needed.find? fun (_, value) => value = "" with
  | some (name, _) => throw (.missingField (scope.pathOf name))
  | none => pure (publish c (c.publishedTag.getD ctx.runId))

end CypherPublisher

/-- The publisher of Cypher scripts. -/
def cypherPublisher {ν : Type} : Publisher (RunState ν) where
  scope := "publisher.cypher"
  setUp scope ctx s :=
    ((CypherPublisher.prepare scope ctx).map CypherPublisher.filesPart.lift, s)

/-- The publisher that leaves the output where it is. -/
def noopPublisher {σ : Type} : Publisher σ where
  scope := "publisher.noop"
  setUp _ _ s := (.ok fun s => (.ok {}, s), s)

end MetaGraph

/-
The sink that writes models as bulk-load files: nodes in one file for each
label and set of columns, relations in one for each pair of labels, type and
set of columns.
-/
import MetaGraph.Bulk.Neo4j
import MetaGraph.Bulk.Neptune
import MetaGraph.Component.RunState
import MetaGraph.Csv.Writer
import MetaGraph.Pipeline.Stage

namespace MetaGraph

/-- The settings of the sink. -/
structure BulkLoaderConfig where
  nodeDirectory : String := ""
  relationDirectory : String := ""
  format : BulkFormat := .neo4j
  /-- Whether directories that hold files are cleared. -/
  force : Bool := false
deriving DecidableEq, Repr, Inhabited

namespace BulkLoaderConfig

def toJson (c : BulkLoaderConfig) : Json :=
  .object [("force_create_directory", .bool c.force), ("format", .text c.format.name),
    ("node_dir_path", .text c.nodeDirectory), ("relationship_dir_path", .text c.relationDirectory)]

def settings : Settings BulkLoaderConfig where
  shape :=
    Shape.done mk
      |>.optional "node_dir_path" Decoder.path ""
      |>.optional "relationship_dir_path" Decoder.path ""
      |>.optional "format" BulkFormat.decoder .neo4j
      |>.optional "force_create_directory" Decoder.bool false
  defaults := Settings.entries (toJson {})

end BulkLoaderConfig

/-- The files that a sink writes to, and what it has written. -/
structure BulkFiles where
  files : FileStore
  output : BulkOutput := {}
deriving DecidableEq, Repr

namespace BulkFiles

/-- Writes a row to its file, which is created with its header for the first row. -/
def writeRow (b : BulkFiles) (directory stem : String) (row : Row) :
    Except LoadError Unit × BulkFiles :=
  let cells := Csv.rowBytes row.cells
  match b.output.openFiles.lookup (stem, row.columns) with
  | some place => (.ok (), { b with files := b.files.append place cells })
  | none =>
    let count := (b.output.counts.get? stem).getD 0
    let output := { b.output with counts := b.output.counts.insert stem (count + 1) }
    let path := Path.join directory s!"{stem}_{count}.csv"
    match b.files.writable path with
    | .error e => (.error (.csv (.io e)), { b with output })
    | .ok place =>
      let openFiles := ((stem, row.columns), place) :: output.openFiles
      (.ok (), ⟨b.files.put place (.file (Csv.rowBytes row.columns ++ cells)), { output with openFiles }⟩)

def writeRows (b : BulkFiles) (directory stem : String) : List Row → Except LoadError Unit × BulkFiles
  | [] => (.ok (), b)
  | row :: rows =>
    match b.writeRow directory stem row with
    | (.ok (), b) => writeRows b directory stem rows
    | (.error e, b) => (.error e, b)

/-- The rows of a node. -/
def nodeRows (format : BulkFormat) (n : Node) : List Row :=
  match format with
  | .neo4j => [Neo4j.nodeRow n]
  | .neptune => [Neptune.nodeRow n]

/-- The rows of a relation. -/
def relationRows (format : BulkFormat) (r : Relation) : List Row :=
  match format with
  | .neo4j => [Neo4j.relationRow r]
  | .neptune => Neptune.relationRows r

/-- What the files of a relation are named after. -/
def relationStem (r : Relation) : String := r.startLabel ++ "_" ++ r.endLabel ++ "_" ++ r.kind

def writeNode (c : BulkLoaderConfig) (b : BulkFiles) (n : Node) : Except LoadError Unit × BulkFiles :=
  match n.check with
  | .error e => (.error (.graph e), b)
  | .ok () =>
    match b.writeRows c.nodeDirectory n.label (nodeRows c.format n) with
    | (.error e, b) => (.error e, b)
    | (.ok (), b) => (.ok (), { b with output := { b.output with nodes := b.output.nodes + 1 } })

def writeRelation (c : BulkLoaderConfig) (b : BulkFiles) (r : Relation) :
    Except LoadError Unit × BulkFiles :=
  match r.check with
  | .error e => (.error (.graph e), b)
  | .ok () =>
    match b.writeRows c.relationDirectory (relationStem r) (relationRows c.format r) with
    | (.error e, b) => (.error e, b)
    | (.ok (), b) =>
      (.ok (), { b with output := { b.output with relations := b.output.relations + 1 } })

/-- Writes elements in order, up to the first that fails. -/
def writeAll {α : Type} (write : BulkFiles → α → Except LoadError Unit × BulkFiles) (b : BulkFiles) :
    List α → Except LoadError Unit × BulkFiles
  | [] => (.ok (), b)
  | x :: xs =>
    match write b x with
    | (.ok (), b) => writeAll write b xs
    | (.error e, b) => (.error e, b)

/-- Writes what a model has not handed out yet: its nodes, then its relations. -/
def writeModel (c : BulkLoaderConfig) (b : BulkFiles) (m : Model) : Except LoadError Unit × BulkFiles :=
  match b.writeAll (writeNode c) m.elements.nodes with
  | (.error e, b) => (.error e, b)
  | (.ok (), b) => b.writeAll (writeRelation c) m.elements.relations

/-- Makes an empty directory, clearing one that holds files if that is allowed. -/
def prepareDirectory (scope : String) (force : Bool) (s : FileStore) (path : String) :
    Except ConfigError FileStore := do
  let fault (what : String) (e : FileError) : ConfigError :=
    .invalid scope s!"cannot {what} {path}: {e.message}"
  let cleared ←
    if s.pathExists path then do
      let names ← (s.list path).mapError (fault "read")
      if names = [] then pure s
      else if force then (s.removeTree path).mapError (fault "clear")
      else
        throw (.invalid scope
          s!"{path} is not empty; set force_create_directory to overwrite it")
    else pure s
  (cleared.makeDirectories path).mapError (fault "create")

/-- Makes both directories ready, one after the other; a single one for both is made ready once.
A failed step leaves what was done before it. -/
def prepare (scope : Scope) (c : BulkLoaderConfig) (s : FileStore) :
    Except ConfigError Unit × FileStore :=
  if c.nodeDirectory = "" then (.error (.missingField (scope.pathOf "node_dir_path")), s)
  else if c.relationDirectory = "" then
    (.error (.missingField (scope.pathOf "relationship_dir_path")), s)
  else
    match prepareDirectory scope.name c.force s c.nodeDirectory with
    | .error e => (.error e, s)
    | .ok s =>
      if Path.same c.relationDirectory c.nodeDirectory then (.ok (), s)
      else
        match prepareDirectory scope.name c.force s c.relationDirectory with
        | .error e => (.error e, s)
        | .ok s => (.ok (), s)

end BulkFiles

namespace BulkLoader

variable {ν : Type}

def scopeName : String := "loader.filesystem_csv"

/-- The part of a run's state that the sink acts on. -/
def part : Part (RunState ν) BulkFiles where
  get s := ⟨s.files, s.output⟩
  set b s := { s with files := b.files, output := b.output }

def load (c : BulkLoaderConfig) : Load BulkFiles where
  load p b :=
    match p with
    | .model m => b.writeModel c m
    | .record _ => (.error (.unsupportedPayload scopeName p.kind), b)
  close b := (.ok (), b)

end BulkLoader

/-- The sink that writes bulk-load files. -/
def bulkLoader {ν : Type} : Loader (RunState ν) :=
  Loader.lift BulkLoader.part {
    scope := BulkLoader.scopeName
    setUp := fun scope _ b =>
      match scope.extract BulkLoaderConfig.settings with
      | .error e => (.error e, b)
      | .ok c =>
        let (result, files) := BulkFiles.prepare scope c b.files
        (result.map fun _ => BulkLoader.load c, { b with files }) }

end MetaGraph

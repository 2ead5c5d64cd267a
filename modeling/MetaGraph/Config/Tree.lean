/-
The configuration of a job: one tree of settings, of which each component
reads the part below its own scope. Settings are layered: defaults of the
component, then the job file, then the environment; a table given in part
keeps the rest from the layers below.
-/
import MetaGraph.Config.Environment
import MetaGraph.Config.Error
import MetaGraph.Decode.Shape
import MetaGraph.Files.Store
import MetaGraph.Toml.Document

namespace MetaGraph

/-- The settings of a whole job, or why there are none. -/
structure JobConfig where
  tree : Except DecodeError (List (String × Datum))
deriving Inhabited

namespace JobConfig

def empty : JobConfig := ⟨.ok []⟩

/-- The settings a piece of data holds; it has to be a table. -/
def ofDatum : Datum → JobConfig
  | .table entries => ⟨.ok entries⟩
  | d => ⟨.error (.invalidType d.found "map")⟩

/-- The fault of a text that is no document. The position of the fault is not told. -/
def notADocument : DecodeError := .custom "TOML parse error: not a TOML document"

/-- The settings a TOML document holds. -/
def ofToml (text : String) : JobConfig :=
  match Toml.parse? text with
  | some entries => ⟨.ok entries⟩
  | none => ⟨.error notADocument⟩

/-- The settings in the content of a job file. -/
def ofBytes (content : Bytes) : JobConfig :=
  match Utf8.decode content with
  | .ok text => ofToml text
  | .error _ => ⟨.error (.custom "stream did not contain valid UTF-8")⟩

/-- The settings with others laid over them. -/
def overlay (c : JobConfig) (upper : List (String × Datum)) : JobConfig :=
  ⟨c.tree.map fun entries => Datum.overlayEntries entries upper⟩

/-- The settings of a job file, overlaid by the environment. A directory in place
of the file holds no settings. -/
def load (s : FileStore) (vars : List (String × String)) (path : String) :
    Except ConfigError JobConfig :=
  if s.pathExists path then
    let file :=
      match s.read path with
      | .ok content => ofBytes content
      | .error _ => empty
    match Environment.settings vars with
    | .table upper => .ok (file.overlay upper)
    | _ => .ok file
  else .error (.fileNotFound path)

/-- The setting at a dotted path. -/
def find? (c : JobConfig) (path : String) : Option Datum :=
  match c.tree with
  | .ok entries => Datum.descend? (Text.splitOn '.' path) (.table entries)
  | .error _ => none

/-- The entries of the table at a dotted path; none where there is no table. -/
def focus (c : JobConfig) (path : String) : Except DecodeError (List (String × Datum)) := do
  match Datum.descend? (Text.splitOn '.' path) (.table (← c.tree)) with
  | some (.table entries) => pure entries
  | _ => pure []

end JobConfig

/-- The settings of one component: a structure with its defaults and its form. -/
structure Settings (α : Type) where
  shape : Shape α
  /-- The default of every field. -/
  defaults : List (String × Datum)

/-- The entries of a table that is given as JSON. -/
def Settings.entries : Json → List (String × Datum)
  | .object members => Json.toEntries members
  | _ => []

/-- The part of a job's settings below a dotted path. -/
structure Scope where
  config : JobConfig
  name : String
deriving Inhabited

namespace JobConfig

/-- The settings below a dotted path. -/
def scope (c : JobConfig) (name : String) : Scope := ⟨c, name⟩

end JobConfig

namespace Scope

/-- A scope of a job without settings. -/
def empty (name : String) : Scope := ⟨.empty, name⟩

/-- The path of a setting in a scope. -/
def pathOf (s : Scope) (key : String) : String := s.name ++ "." ++ key

/-- A scope below this one. -/
def below (s : Scope) (sub : String) : Scope := ⟨s.config, s.pathOf sub⟩

/-- Another scope of the same job. -/
def withScope (s : Scope) (name : String) : Scope := ⟨s.config, name⟩

/-- Whether a key is set below the scope. -/
def contains (s : Scope) (key : String) : Bool := (s.config.find? (s.pathOf key)).isSome

def invalid (s : Scope) (e : DecodeError) : ConfigError := .invalid s.name e.configMessage

/-- A setting that has to be there. -/
def require {α : Type} (s : Scope) (item : Decoder α) (key : String) : Except ConfigError α :=
  match s.config.find? (s.pathOf key) with
  | none => .error (.missingField (s.pathOf key))
  | some d => (item .config d).mapError s.invalid

/-- The settings of a component, those of the scope laid over the defaults. -/
def extract {α : Type} (s : Scope) (settings : Settings α) : Except ConfigError α :=
  match s.config.focus s.name with
  | .error e => .error (s.invalid e)
  | .ok upper =>
    (settings.shape.ofEntries .config (Datum.overlayEntries settings.defaults upper)).mapError
      s.invalid

end Scope

end MetaGraph

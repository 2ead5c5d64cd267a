/-
The stages of a pipeline. A stage is described by what it does before it is
set up and by how it is set up; setting it up reads its own part of the
configuration and gives the working stage. All stages of a pipeline act on
one state, of which the library fixes nothing here.
-/
import MetaGraph.Config.Tree
import MetaGraph.Model.Registry
import MetaGraph.Pipeline.Error

namespace MetaGraph

/-- What goes through a pipeline: records, and models once they are bound. -/
inductive Payload where
  | record (r : Record)
  | model (m : Model)
deriving DecidableEq, Repr

/-- What a payload is called in messages. -/
def Payload.kind : Payload → String
  | record _ => "record"
  | model m => m.name

/-- What all stages of a run share. -/
structure RunContext where
  registry : Registry := Registry.builtin
  /-- The name of the run. -/
  runId : String

/-- What comes of asking a source for its next payload. -/
inductive Extracted where
  | payload (p : Payload)
  | finished
  | failed (e : ExtractError)
  /-- Nothing yet; the source goes on when it is asked again. -/
  | working
deriving Inhabited

/-- A working source. -/
abbrev Extract (σ : Type) := σ → Extracted × σ

/-- A working transformation; it drops a payload by giving none. -/
abbrev Transform (σ : Type) := Payload → σ → Except TransformError (Option Payload) × σ

/-- A working sink. -/
structure Load (σ : Type) where
  load : Payload → σ → Except LoadError Unit × σ
  /-- Completes the output. -/
  close : σ → Except LoadError Unit × σ

/-- Setting up a stage. -/
abbrev SetUp (σ stage : Type) := Scope → RunContext → σ → Except ConfigError stage × σ

/-- A source of payloads. -/
structure Extractor (σ : Type) where
  /-- The dotted path of its configuration. -/
  scope : String
  /-- What it does while it is not set up. -/
  idle : Extract σ
  setUp : SetUp σ (Extract σ)

/-- A transformation of payloads. -/
structure Transformer (σ : Type) where
  scope : String
  idle : Transform σ
  setUp : SetUp σ (Transform σ)

/-- A sink of payloads. -/
structure Loader (σ : Type) where
  scope : String
  setUp : SetUp σ (Load σ)

/-- What was published. -/
structure PublishReport where
  files : Nat := 0
  nodes : Nat := 0
  relations : Nat := 0
  output : Option String := none
deriving DecidableEq, Repr, Inhabited

def PublishReport.toJson (r : PublishReport) : Json :=
  .object [("files", .ofNat r.files), ("nodes", .ofNat r.nodes),
    ("output", Json.ofOption .text r.output), ("relations", .ofNat r.relations)]

/-- A working publisher. -/
abbrev Publish (σ : Type) := σ → Except PublishError PublishReport × σ

/-- What moves the output of a run to its destination. -/
structure Publisher (σ : Type) where
  scope : String
  setUp : SetUp σ (Publish σ)

/-! ## Chains of transformations -/

namespace Transformer

variable {σ : Type}

/-- Transformations one after the other, up to the first that drops the payload or
fails. -/
def sequence : List (Transform σ) → Transform σ
  | [], p, s => (.ok (some p), s)
  | t :: ts, p, s =>
    match t p s with
    | (.ok (some p), s) => sequence ts p s
    | (.ok none, s) => (.ok none, s)
    | (.error e, s) => (.error e, s)

/-- Sets up transformers in order, each from its own part of the configuration. -/
def setUpAll (scope : Scope) (ctx : RunContext) :
    List (Transformer σ) → σ → Except ConfigError (List (Transform σ)) × σ
  | [], s => (.ok [], s)
  | t :: ts, s =>
    match t.setUp (scope.withScope t.scope) ctx s with
    | (.error e, s) => (.error e, s)
    | (.ok f, s) =>
      let (rest, s) := setUpAll scope ctx ts s
      (rest.map (f :: ·), s)

/-- A chain of transformers as one. -/
def chain (members : List (Transformer σ)) : Transformer σ where
  scope := "transformer.chained"
  idle := sequence (members.map Transformer.idle)
  setUp scope ctx s :=
    let (fs, s) := setUpAll scope ctx members s
    (fs.map sequence, s)

/-- The transformer that a list of them makes: none, the only one, or their chain. -/
def ofList : List (Transformer σ) → Option (Transformer σ)
  | [] => none
  | [t] => some t
  | ts => some (chain ts)

end Transformer

/-! ## Stages on a part of a state -/

/-- A part of a larger state. -/
structure Part (σ ρ : Type) where
  get : σ → ρ
  set : ρ → σ → σ

namespace Part

variable {σ ρ α : Type}

/-- What acts on the part, acting on the whole. -/
def lift (p : Part σ ρ) (f : ρ → α × ρ) (s : σ) : α × σ :=
  let (a, r) := f (p.get s)
  (a, p.set r s)

def liftSetUp {a b : Type} (p : Part σ ρ) (stage : a → b) (f : SetUp ρ a) : SetUp σ b :=
  fun scope ctx s =>
    let (result, s) := p.lift (f scope ctx) s
    (result.map stage, s)

end Part

def Loader.lift {σ ρ : Type} (p : Part σ ρ) (l : Loader ρ) : Loader σ where
  scope := l.scope
  setUp := p.liftSetUp
    (fun f => { load := fun payload => p.lift (f.load payload), close := p.lift f.close }) l.setUp

end MetaGraph

/-
A task: payloads are pulled from a source until it is exhausted, each goes
through the transformation and on to the sink. What is wrong with a single
record drops that record; anything else ends the run. A task runs once.
-/
import MetaGraph.Pipeline.Stage

namespace MetaGraph

/-- The settings of a task. -/
structure TaskConfig where
  /-- Whether a record that cannot be bound to its model ends the run. -/
  failOnModelError : Bool := false
  /-- After how many payloads progress is told. -/
  progressFrequency : Nat := 500
deriving DecidableEq, Repr, Inhabited

namespace TaskConfig

def toJson (c : TaskConfig) : Json :=
  .object [("fail_on_model_error", .bool c.failOnModelError),
    ("progress_report_frequency", .ofNat c.progressFrequency)]

def settings : Settings TaskConfig where
  shape :=
    Shape.done mk
      |>.optional "fail_on_model_error" Decoder.bool false
      |>.optional "progress_report_frequency" Decoder.u64 500
  defaults := Settings.entries (toJson {})

/-- The part of the configuration that holds them. -/
def scope : String := "task"

end TaskConfig

/-- How many payloads went where. -/
structure TaskReport where
  /-- Payloads that came from the source. -/
  extracted : Nat := 0
  /-- Payloads that the transformation chose to drop. -/
  dropped : Nat := 0
  /-- Payloads lost to a fault of a single record. -/
  failed : Nat := 0
  loaded : Nat := 0
deriving DecidableEq, Repr, Inhabited

def TaskReport.toJson (r : TaskReport) : Json :=
  .object [("dropped", .ofNat r.dropped), ("extracted", .ofNat r.extracted),
    ("failed", .ofNat r.failed), ("loaded", .ofNat r.loaded)]

/-- The stages of a task that is set up. -/
structure Running (σ : Type) where
  config : TaskConfig
  extract : Extract σ
  transform : Option (Transform σ)
  load : Load σ

/-- How far a task has come. -/
inductive TaskState (σ : Type) where
  | uninitialized
  | initialized (r : Running σ)
  | extracting
  | exhausted

namespace TaskState

variable {σ : Type}

def name : TaskState σ → String
  | uninitialized => "uninitialized"
  | initialized _ => "initialized"
  | extracting => "extracting"
  | exhausted => "exhausted"

end TaskState

/-- A task that is not set up. -/
structure Task (σ : Type) where
  extractor : Extractor σ
  transformer : Option (Transformer σ) := none
  loader : Loader σ

variable {σ : Type}

/-! ## Running -/

/-- What a step of a run comes to. -/
inductive TaskStep where
  | goesOn (r : TaskReport)
  | ends
  | fails (e : PipelineError)

namespace Running

/-- Whether a fault of the source drops only one record. -/
def dropsExtract (r : Running σ) (e : ExtractError) : Bool :=
  e.isRecordLevel && !(r.config.failOnModelError && e.isModelError)

/-- Hands a payload to the sink. -/
def loadStep (r : Running σ) (report : TaskReport) (p : Payload) (s : σ) : TaskStep × σ :=
  match r.load.load p s with
  | (.ok (), s) => (.goesOn { report with loaded := report.loaded + 1 }, s)
  | (.error e, s) =>
    if e.isRecordLevel then (.goesOn { report with failed := report.failed + 1 }, s)
    else (.fails (.load e), s)

/-- Transforms a payload and hands on what becomes of it. -/
def transformStep (r : Running σ) (report : TaskReport) (p : Payload) (s : σ) : TaskStep × σ :=
  match r.transform with
  | none => r.loadStep report p s
  | some f =>
    match f p s with
    | (.ok (some p), s) => r.loadStep report p s
    | (.ok none, s) => (.goesOn { report with dropped := report.dropped + 1 }, s)
    | (.error e, s) =>
      if r.config.failOnModelError && e.isModelError then (.fails (.transform e), s)
      else (.goesOn { report with failed := report.failed + 1 }, s)

/-- Asks the source once and deals with its answer. -/
def step (r : Running σ) (report : TaskReport) (s : σ) : TaskStep × σ :=
  match r.extract s with
  | (.working, s) => (.goesOn report, s)
  | (.finished, s) => (.ends, s)
  | (.failed e, s) =>
    if r.dropsExtract e then (.goesOn { report with failed := report.failed + 1 }, s)
    else (.fails (.extract e), s)
  | (.payload p, s) => r.transformStep { report with extracted := report.extracted + 1 } p s

/-- Steps until the source is exhausted, at most `fuel` of them; nothing if these do
not suffice. -/
def pump (r : Running σ) : Nat → TaskReport → σ → Option (Except PipelineError TaskReport) × σ
  | 0, _, s => (none, s)
  | fuel + 1, report, s =>
    match r.step report s with
    | (.goesOn report, s) => pump r fuel report s
    | (.ends, s) => (some (.ok report), s)
    | (.fails e, s) => (some (.error e), s)

end Running

namespace Task

/-- The fault of a task that is asked for what its state does not allow. -/
def wrongState (state : TaskState σ) (target : String) : PipelineError :=
  .invalidState state.name target

/-- Sets up the stages, each from its own part of the configuration. -/
def setUpStages (t : Task σ) (config : JobConfig) (ctx : RunContext) (s : σ) :
    Except ConfigError (Running σ) × σ :=
  match (config.scope TaskConfig.scope).extract TaskConfig.settings with
  | .error e => (.error e, s)
  | .ok settings =>
    match t.extractor.setUp (config.scope t.extractor.scope) ctx s with
    | (.error e, s) => (.error e, s)
    | (.ok extract, s) =>
      let (transform, s) : Except ConfigError (Option (Transform σ)) × σ :=
        match t.transformer with
        | none => (.ok none, s)
        | some transformer =>
          let (f, s) := transformer.setUp (config.scope transformer.scope) ctx s
          (f.map some, s)
      match transform with
      | .error e => (.error e, s)
      | .ok transform =>
        let (load, s) := t.loader.setUp (config.scope t.loader.scope) ctx s
        (load.map fun load => ⟨settings, extract, transform, load⟩, s)

/-- Sets up a task that is not set up yet. -/
def init (t : Task σ) (config : JobConfig) (ctx : RunContext) (state : TaskState σ) (s : σ) :
    Except PipelineError Unit × TaskState σ × σ :=
  match state with
  | .uninitialized =>
    match t.setUpStages config ctx s with
    | (.ok r, s) => (.ok (), .initialized r, s)
    | (.error e, s) => (.error (.config e), .uninitialized, s)
  | state => (.error (wrongState state "initialized"), state, s)

/-- Runs a task that is set up, in at most `fuel` steps; nothing if these do not
suffice. The output is completed whether the run fails or not, and the first fault
is the one reported. -/
def run (fuel : Nat) (state : TaskState σ) (s : σ) :
    Option (Except PipelineError TaskReport) × TaskState σ × σ :=
  match state with
  | .initialized r =>
    match r.pump fuel {} s with
    | (none, s) => (none, .extracting, s)
    | (some result, s) =>
      let (closed, s) := r.load.close s
      match result, closed with
      | .error e, _ => (some (.error e), .extracting, s)
      | .ok _, .error e => (some (.error (.load e)), .extracting, s)
      | .ok report, .ok () => (some (.ok report), .exhausted, s)
  | state => (some (.error (wrongState state "extracting")), state, s)

end Task

end MetaGraph

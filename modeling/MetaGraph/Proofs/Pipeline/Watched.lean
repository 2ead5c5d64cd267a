/-
Pipelines that are watched: every call of a working stage is noted, with what
it was given and what it answered. Watching changes nothing else, so what is
noted of a watched pipeline are the calls of the pipeline itself.
-/
import MetaGraph.Pipeline.Job

namespace MetaGraph

/-- A call of a working stage, with what it was given and what it answered. -/
inductive StageCall where
  | extract (answer : Extracted)
  | transform (given : Payload) (answer : Except TransformError (Option Payload))
  | load (given : Payload) (answer : Except LoadError Unit)
  | close (answer : Except LoadError Unit)

/-- A state, and the calls that were made. -/
abbrev Watched (σ : Type) := σ × List StageCall

variable {σ α : Type}

/-- What acts on a state, with its call noted. -/
def watch (call : α → StageCall) (f : σ → α × σ) (w : Watched σ) : α × Watched σ :=
  ((f w.1).1, (f w.1).2, w.2 ++ [call (f w.1).1])

/-- The state without the calls; what acts on it is not noted. -/
def Watched.state : Part (Watched σ) σ where
  get w := w.1
  set s w := (s, w.2)

/-- Setting up a stage makes no call. -/
@[simp] theorem Watched.state_liftSetUp {β : Type} (stage : α → β) (f : SetUp σ α) (scope : Scope)
    (ctx : RunContext) (s : σ) (calls : List StageCall) :
    Watched.state.liftSetUp stage f scope ctx (s, calls) =
      ((f scope ctx s).1.map stage, (f scope ctx s).2, calls) := rfl

/-! ## Stages -/

def Extract.watched (f : Extract σ) : Extract (Watched σ) := watch .extract f

def Transform.watched (f : Transform σ) : Transform (Watched σ) := fun p => watch (.transform p) (f p)

def Load.watched (f : Load σ) : Load (Watched σ) where
  load p := watch (.load p) (f.load p)
  close := watch .close f.close

def Extractor.watched (e : Extractor σ) : Extractor (Watched σ) where
  scope := e.scope
  idle := Extract.watched e.idle
  setUp := Watched.state.liftSetUp Extract.watched e.setUp

def Transformer.watched (t : Transformer σ) : Transformer (Watched σ) where
  scope := t.scope
  idle := Transform.watched t.idle
  setUp := Watched.state.liftSetUp Transform.watched t.setUp

def Loader.watched (l : Loader σ) : Loader (Watched σ) where
  scope := l.scope
  setUp := Watched.state.liftSetUp Load.watched l.setUp

/-! ## Tasks -/

def Task.watched (t : Task σ) : Task (Watched σ) where
  extractor := t.extractor.watched
  transformer := t.transformer.map Transformer.watched
  loader := t.loader.watched

def Running.watched (r : Running σ) : Running (Watched σ) where
  config := r.config
  extract := Extract.watched r.extract
  transform := r.transform.map Transform.watched
  load := r.load.watched

def TaskState.watched : TaskState σ → TaskState (Watched σ)
  | .uninitialized => .uninitialized
  | .initialized r => .initialized r.watched
  | .extracting => .extracting
  | .exhausted => .exhausted

/-- Watched stages are set up as they are, and no call is made. -/
theorem Task.setUpStages_watched (t : Task σ) (config : JobConfig) (ctx : RunContext) (s : σ)
    (calls : List StageCall) :
    t.watched.setUpStages config ctx (s, calls) =
      ((t.setUpStages config ctx s).1.map Running.watched, (t.setUpStages config ctx s).2, calls) := by
  unfold setUpStages
  cases (config.scope TaskConfig.scope).extract TaskConfig.settings with
  | error e => rfl
  | ok settings =>
  simp only [Task.watched, Extractor.watched, Loader.watched, Watched.state_liftSetUp]
  rcases t.extractor.setUp (config.scope t.extractor.scope) ctx s with ⟨_ | extract, s₁⟩
  · rfl
  cases t.transformer with
  | none =>
    simp only [Except.map, Option.map_none, Watched.state_liftSetUp]
    cases (t.loader.setUp (config.scope t.loader.scope) ctx s₁).1 <;> rfl
  | some transformer =>
    simp only [Option.map_some, Transformer.watched]
    rcases h : transformer.setUp (config.scope transformer.scope) ctx s₁ with ⟨_ | f, s₂⟩ <;>
      simp only [h, Except.map, Watched.state_liftSetUp]
    cases (t.loader.setUp (config.scope t.loader.scope) ctx s₂).1 <;> rfl

theorem Task.init_watched (t : Task σ) (config : JobConfig) (ctx : RunContext) (state : TaskState σ) (s : σ)
    (calls : List StageCall) :
    t.watched.init config ctx state.watched (s, calls) =
      ((t.init config ctx state s).1, (t.init config ctx state s).2.1.watched,
        (t.init config ctx state s).2.2, calls) := by
  cases state with
  | uninitialized =>
    simp only [init, TaskState.watched, setUpStages_watched]
    rcases t.setUpStages config ctx s with ⟨_ | r, s'⟩ <;> rfl
  | initialized | extracting | exhausted => rfl

end MetaGraph

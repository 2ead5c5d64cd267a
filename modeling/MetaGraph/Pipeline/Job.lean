/-
A job: a task and what publishes its output, in one run of its own.
-/
import MetaGraph.Pipeline.Task

namespace MetaGraph

/-- A job that is ready to be launched. -/
structure Job (σ : Type) where
  identifier : String
  config : JobConfig
  task : Task σ
  publisher : Publisher σ

/-- What a job did. -/
structure JobReport where
  runId : String
  identifier : String
  task : TaskReport
  publish : PublishReport
deriving DecidableEq, Repr, Inhabited

def JobReport.toJson (r : JobReport) : Json :=
  .object [("identifier", .text r.identifier), ("publish", r.publish.toJson),
    ("run_id", .text r.runId), ("task", r.task.toJson)]

namespace Job

variable {σ : Type}

/-- Publishes the output of a run. -/
def publish (j : Job σ) (ctx : RunContext) (s : σ) : Except PipelineError PublishReport × σ :=
  match j.publisher.setUp (j.config.scope j.publisher.scope) ctx s with
  | (.error e, s) => (.error (.config e), s)
  | (.ok publish, s) =>
    let (report, s) := publish s
    (report.mapError PipelineError.publish, s)

/-- Runs the task to its end, in at most `fuel` steps, and then publishes; nothing if
the steps do not suffice. -/
def launch (j : Job σ) (fuel : Nat) (ctx : RunContext) (s : σ) :
    Option (Except PipelineError JobReport) × σ :=
  match j.task.init j.config ctx .uninitialized s with
  | (.error e, _, s) => (some (.error e), s)
  | (.ok (), state, s) =>
    match Task.run fuel state s with
    | (none, _, s) => (none, s)
    | (some (.error e), _, s) => (some (.error e), s)
    | (some (.ok task), _, s) =>
      let (published, s) := j.publish ctx s
      (some (published.map fun publish => ⟨ctx.runId, j.identifier, task, publish⟩), s)

end Job

end MetaGraph

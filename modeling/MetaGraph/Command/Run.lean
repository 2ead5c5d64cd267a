/-
The program: it lists the models it knows, or runs the job of a file. All it
needs of the world is handed in: the words, the environment, the files, the
network and a name for the run.
-/
import MetaGraph.Command.Arguments
import MetaGraph.Command.Outcome
import MetaGraph.Component.Assembly
import MetaGraph.Config.EnvFile

namespace MetaGraph.Command

variable {ν : Type}

/-- What a run of the program is given. -/
structure World (ν : Type) where
  words : List String
  vars : EnvFile.Variables
  network : Network ν
  runId : String

/-- The job of a file, with the variables laid over its settings. -/
def prepare (w : World ν) (s : FileStore) (file : String) (identifier : Option String) :
    Except Outcome (Job (RunState ν)) := do
  let config ← (JobConfig.load s (EnvFile.load s w.vars) file).mapError fun e =>
    .failure s!"Failed to load job file {file}" [e.message]
  let job ← (Assembly.job w.network config).mapError fun e => .failure e.message []
  pure { job with identifier := identifier.getD job.identifier }

/-- How a launched job ended. -/
def Outcome.ofLaunch : Except PipelineError JobReport → Outcome
  | .ok report => .success (reportText report)
  | .error e => .failure "Job failed" (e.message :: e.causes)

/-- Runs the program for at most `fuel` steps of a job; there is no outcome if they do not
suffice. -/
def execute (w : World ν) (fuel : Nat) (s : RunState ν) : Option Outcome × RunState ν :=
  match Invocation.ofWords w.words with
  | .misuse => (some .misuse, s)
  | .version => (some (.success versionText), s)
  | .help topic => (some (.success topic.text), s)
  | .models => (some (.success (lines Registry.builtin.names)), s)
  | .run file identifier =>
    match prepare w s.files file identifier with
    | .error outcome => (some outcome, s)
    | .ok job =>
      let (result, s) := job.launch fuel { runId := w.runId } s
      (result.map Outcome.ofLaunch, s)

end MetaGraph.Command

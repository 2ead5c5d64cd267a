/-
What a run of the program shows: how it ended, what it wrote, and the text of
an error with all that lies behind it.
-/
import MetaGraph.Command.Help
import MetaGraph.Pipeline.Job

namespace MetaGraph.Command

/-- How a run of the program ended. -/
structure Outcome where
  exitCode : Nat
  output : String := ""
  complaint : String := ""
deriving DecidableEq, Repr, Inhabited

/-- A run that did what it was asked for. -/
def Outcome.success (output : String) : Outcome := { exitCode := 0, output }

/-- A run whose words are no command; it tells how the program is used. -/
def Outcome.misuse : Outcome := { exitCode := 2, complaint := Topic.program.text }

/-- A text whose later lines start with `margin`. -/
def hang (margin text : String) : String :=
  String.ofList (text.toList.flatMap fun c => if c = '\n' then '\n' :: margin.toList else [c])

/-- A number at the end of five places. -/
def inFive (n : Nat) : String :=
  let digits := toString n
  String.ofList (List.replicate (5 - digits.length) ' ') ++ digits

/-- A single cause stands alone; several are numbered. -/
def causesText : List String → String
  | [] => ""
  | [cause] => "\n\nCaused by:\n    " ++ hang "    " cause
  | causes =>
    "\n\nCaused by:" ++ String.join (causes.zipIdx.map fun (cause, n) =>
      "\n" ++ inFive n ++ ": " ++ hang "       " cause)

/-- A run that failed, for the causes given with the nearest first. -/
def Outcome.failure (message : String) (causes : List String) : Outcome :=
  { exitCode := 1, complaint := "Error: " ++ message ++ causesText causes ++ "\n" }

/-- A report over several lines, its fields in the order of the run. -/
def reportText (r : JobReport) : String :=
  let report : Json := .object [
    ("run_id", .text r.runId),
    ("identifier", .text r.identifier),
    ("task", .object [
      ("extracted", .ofNat r.task.extracted), ("dropped", .ofNat r.task.dropped),
      ("failed", .ofNat r.task.failed), ("loaded", .ofNat r.task.loaded)]),
    ("publish", .object [
      ("files", .ofNat r.publish.files), ("nodes", .ofNat r.publish.nodes),
      ("relations", .ofNat r.publish.relations),
      ("output", Json.ofOption .text r.publish.output)])]
  report.indented ++ "\n"

end MetaGraph.Command

/-
The state on which the components of the library act during a run: files,
the claims of the run, the source that is being read and the output that is
being written. The state of the network is left open.
-/
import MetaGraph.Csv.Reader
import MetaGraph.Pipeline.Stage
import MetaGraph.Rest.Chain

namespace MetaGraph

/-- What a source of payloads has still to give. -/
inductive Source where
  | closed
  /-- The rows of a file, the names of their fields, and how many rows were read. -/
  | rows (reader : Csv.Reader) (header : List String) (count : Nat)
  | chain (c : Chain)
  /-- The program stopped while the source was asked. -/
  | stopped
deriving Inhabited

/-- The output files of a run and what was written. -/
structure BulkOutput where
  /-- The files that are open, by what they are named after and their columns. -/
  openFiles : List ((String × List String) × Place) := []
  /-- How many files are named after a text. -/
  counts : KeyMap Nat := []
  nodes : Nat := 0
  relations : Nat := 0
deriving DecidableEq, Repr, Inhabited

/-- The state of a run over a network with states `ν`. -/
structure RunState (ν : Type) where
  files : FileStore
  claims : Claims := {}
  source : Source := .closed
  output : BulkOutput := {}
  network : ν

/-- Binds a record to a model, if records are to be bound. -/
def RunState.bind {ν : Type} (s : RunState ν) (kind : Option ModelKind) (record : Record) :
    Except ModelError Payload × RunState ν :=
  match kind with
  | none => (.ok (Payload.record record), s)
  | some kind =>
    match kind.build record s.claims with
    | .ok (m, claims) => (.ok (.model m), { s with claims })
    | .error e => (.error e, s)

end MetaGraph

/-
The source that pulls a chain of REST queries: one payload for each record
of the chain, with fixed fields laid over it.
-/
import MetaGraph.Component.CsvExtractor
import MetaGraph.Rest.Config

namespace MetaGraph

/-- The settings of the source. -/
structure RestExtractorConfig where
  chain : ChainConfig := {}
  /-- Fields that every record has. -/
  staticRecord : Record := []
  /-- The model to which records are bound. -/
  modelClass : Option String := none
deriving DecidableEq, Repr, Inhabited

namespace RestExtractorConfig

def toJson (c : RestExtractorConfig) : Json :=
  .object [("chain", c.chain.toJson), ("model_class", Json.ofOption .text c.modelClass),
    ("static_record", .object c.staticRecord)]

def settings : Settings RestExtractorConfig where
  shape :=
    Shape.done mk
      |>.optional "chain" ChainConfig.decoder {}
      |>.optional "static_record" Decoder.record []
      |>.optional "model_class" (Decoder.option Decoder.string) none
  defaults := Settings.entries (toJson {})

end RestExtractorConfig

namespace RestExtractor

variable {ν : Type}

/-- A network on the state of a run. -/
def networkOf (net : Network ν) : Network (RunState ν) where
  send request s :=
    let (reply, network) := net.send request s.network
    (reply, { s with network })
  wait ms s := { s with network := net.wait ms s.network }

/-- Moves the chain once. Where that stops the program there is no answer, however often the
source is asked. -/
def extract (net : Network ν) (fields : Record) (kind : Option ModelKind) : Extract (RunState ν) :=
  fun s =>
    match s.source with
    | .chain c =>
      let (m, c, s) := c.move (networkOf net) s
      let s := { s with source := .chain c }
      match m with
      | .working => (.working, s)
      | .finished => (.finished, { s with source := .closed })
      | .failed e => (.failed (.ofRest e), s)
      | .overflow => (.working, { s with source := .stopped })
      | .record r =>
        match s.bind kind (KeyMap.extend r fields) with
        | (.ok p, s) => (.payload p, s)
        | (.error e, s) => (.failed (.model e), s)
    | .stopped => (.working, s)
    | .closed | .rows .. => (.finished, s)

/-- The chain of the settings, unless another one is given. -/
def chainOf (scope : String) (given : Option Chain) (c : ChainConfig) : Except ConfigError Chain :=
  match given with
  | some chain => .ok chain
  | none => c.build.mapError fun e => .invalid scope e.message

def prepare (given : Option Chain) (scope : Scope) (ctx : RunContext) :
    Except ConfigError (Chain × Record × Option ModelKind) := do
  let c ← scope.extract RestExtractorConfig.settings
  let chain ← chainOf scope.name given c.chain
  pure (chain, c.staticRecord, ← CsvExtractor.modelKind ctx.registry c.modelClass)

end RestExtractor

/-- The source that pulls a chain of queries: the one of its settings, or a given one,
which can be pulled without setting it up. -/
def restExtractor {ν : Type} (net : Network ν) (given : Option Chain := none) :
    Extractor (RunState ν) where
  scope := "extractor.restapi"
  idle := RestExtractor.extract net [] none
  setUp scope ctx s :=
    match RestExtractor.prepare given scope ctx with
    | .error e => (.error e, s)
    | .ok (chain, fields, kind) =>
      (.ok (RestExtractor.extract net fields kind), { s with source := .chain chain })

end MetaGraph

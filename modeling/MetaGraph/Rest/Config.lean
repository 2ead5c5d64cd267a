/-
Chains of queries as a configuration describes them.
-/
import MetaGraph.Decode.Tagged
import MetaGraph.Rest.Chain

namespace MetaGraph

/-- How a configuration says what pages there are. -/
inductive PagingConfig where
  | single
  | numbered (size : Nat) (totalPath : String) (countedPath : Option String)
  | full (size : Nat) (param : String)
deriving DecidableEq, Repr, Inhabited

namespace PagingConfig

def defaultSize : Nat := 100
def defaultTotalPath : String := "pagination.totalAvailable"
def defaultParam : String := "page"

def decoder : Decoder PagingConfig :=
  Decoder.tagged "type" "PaginationConfig" [
    ("none", Shape.done single),
    ("page_number",
      (Shape.done numbered)
        |>.optional "page_size" Decoder.usize defaultSize
        |>.optional "total_available_path" Decoder.string defaultTotalPath
        |>.optional "pagination_json_path" (Decoder.option Decoder.string) none),
    ("full_page",
      (Shape.done full)
        |>.optional "page_size" Decoder.usize defaultSize
        |>.optional "page_param" Decoder.string defaultParam)]

def toJson : PagingConfig → Json
  | single => .object [("type", .text "none")]
  | numbered size totalPath countedPath =>
    let counted :=
      match countedPath with
      | some path => [("pagination_json_path", Json.text path)]
      | none => []
    .object ([("page_size", .ofNat size)] ++ counted ++
      [("total_available_path", .text totalPath), ("type", .text "page_number")])
  | full size param =>
    .object [("page_param", .text param), ("page_size", .ofNat size), ("type", .text "full_page")]

/-- The paging it describes; a page holds at least one item. -/
def build : PagingConfig → Except RestError Paging
  | single => .ok .single
  | numbered size totalPath countedPath => do
    let total ← JsonPath.parse totalPath
    let counted ← countedPath.mapM JsonPath.parse
    pure (.numbered (Paging.pageSize size) total counted)
  | full size param => .ok (.full (Paging.pageSize size) param)

end PagingConfig

/-- A step of a chain. -/
structure QueryConfig where
  url : String
  jsonPath : String
  fieldNames : List String
  params : RequestParams := {}
  coalesce : Bool := false
  byColumn : Bool := false
  onEmpty : EmptyPolicy := .passThrough
  paging : PagingConfig := .single
  skipStatuses : List Nat := []
deriving DecidableEq, Repr

namespace QueryConfig

def shape : Shape QueryConfig :=
  Shape.done mk
    |>.required "url" Decoder.string
    |>.required "json_path" Decoder.string
    |>.required "field_names" (Decoder.list Decoder.string)
    |>.optional "params" RequestParams.decoder {}
    |>.optional "coalesce" Decoder.bool false
    |>.optional "json_path_contains_or" Decoder.bool false
    |>.optional "on_empty" EmptyPolicy.decoder .passThrough
    |>.optional "pagination" PagingConfig.decoder .single
    |>.optional "skip_on_status" (Decoder.list Decoder.u16) []

def decoder : Decoder QueryConfig := shape.decoder "struct RestApiQueryConfig"

def toJson (c : QueryConfig) : Json :=
  .object [
    ("coalesce", .bool c.coalesce),
    ("field_names", .texts c.fieldNames),
    ("json_path", .text c.jsonPath),
    ("json_path_contains_or", .bool c.byColumn),
    ("on_empty", .text c.onEmpty.name),
    ("pagination", c.paging.toJson),
    ("params", c.params.toJson),
    ("skip_on_status", .array (c.skipStatuses.map .ofNat)),
    ("url", .text c.url)]

/-- The step it describes, within a chain of the given parameters and retries. -/
def build (c : QueryConfig) (params : RequestParams) (retry : RetryConfig) :
    Except RestError QueryStep := do
  let paging ← c.paging.build
  QueryStep.checkFields c.url c.fieldNames c.coalesce
  let path ← JsonPath.parse c.jsonPath
  pure {
    url := c.url
    path
    fields := c.fieldNames
    params := params.override c.params
    coalesce := c.coalesce
    byColumn := c.byColumn
    onEmpty := c.onEmpty
    paging
    skipStatuses := c.skipStatuses
    retry }

end QueryConfig

/-- Seed records and the steps that join them. -/
structure ChainConfig where
  seed : List Record := []
  steps : List QueryConfig := []
  retry : RetryConfig := {}
  /-- The parameters of every step, over which each lays its own. -/
  params : RequestParams := {}
deriving DecidableEq, Repr, Inhabited

namespace ChainConfig

def shape : Shape ChainConfig :=
  Shape.done mk
    |>.optional "seed" (Decoder.list Decoder.record) []
    |>.optional "steps" (Decoder.list QueryConfig.decoder) []
    |>.optional "retry" RetryConfig.decoder {}
    |>.optional "params" RequestParams.decoder {}

def decoder : Decoder ChainConfig := shape.decoder "struct RestApiChainConfig"

def toJson (c : ChainConfig) : Json :=
  .object [
    ("params", c.params.toJson),
    ("retry", c.retry.toJson),
    ("seed", .array (c.seed.map .object)),
    ("steps", .array (c.steps.map QueryConfig.toJson))]

/-- The seed; a chain without one starts from a single record without fields. -/
def seedRecords (c : ChainConfig) : List Record := if c.seed = [] then [[]] else c.seed

/-- The chain, its steps in order from the seed on. -/
def build (c : ChainConfig) : Except RestError Chain :=
  if c.steps = [] then .error (.config "query chain has no steps")
  else
    c.steps.foldlM (fun chain step => do pure (chain.addStep (← step.build c.params c.retry)))
      (.seed c.seedRecords)

end ChainConfig

end MetaGraph

/-
One step of a chain of queries: where it asks, what it takes out of an
answer, and the fields it adds to a record. This module holds what a step
does with a single page; `MetaGraph.Rest.Chain` joins steps.
-/
import MetaGraph.Rest.Paging
import MetaGraph.Rest.Retry
import MetaGraph.Rest.Rows
import MetaGraph.Rest.Transport

namespace MetaGraph

/-- What happens to a record for which nothing is found. -/
inductive EmptyPolicy where
  /-- It goes on without new fields. -/
  | passThrough
  | skip
  | fail
deriving DecidableEq, Repr, Inhabited

namespace EmptyPolicy

def name : EmptyPolicy → String
  | passThrough => "pass_through"
  | skip => "skip"
  | fail => "fail"

def decoder : Decoder EmptyPolicy :=
  Decoder.choice "EmptyResultPolicy" ([passThrough, skip, fail].map fun p => (p.name, p))

end EmptyPolicy

/-- A step of a chain, ready to ask. -/
structure QueryStep where
  /-- The template of the address. -/
  url : String
  path : JsonPath
  fields : List String
  params : RequestParams := {}
  /-- Whether all that is found goes into the only field as one list. -/
  coalesce : Bool := false
  /-- Whether the found values come field by field and not row by row. -/
  byColumn : Bool := false
  onEmpty : EmptyPolicy := .passThrough
  paging : Paging := .single
  /-- The statuses that drop a record instead of ending the chain. -/
  skipStatuses : List Nat := []
  retry : RetryConfig := {}
  /-- What is done to the parameters before the first request. -/
  authenticate : RequestParams → Except RestError RequestParams := .ok

namespace QueryStep

/-- A step adds at least one field, and a single one if it coalesces. -/
def checkFields (url : String) (fields : List String) (coalesce : Bool) : Except RestError Unit :=
  if fields = [] then .error (.config s!"query {Text.quoted url} has no field names")
  else if coalesce ∧ 1 < fields.length then
    .error (.config "cannot have multiple fields performing coalesce")
  else .ok ()

/-- The record with the values of one row in the fields of the step. -/
def join (q : QueryStep) (record : Record) (row : List Json) : Record :=
  KeyMap.extend record (q.fields.zip row)

/-- The records that a page yields for an inbound one, and how many rows it counts. -/
def rowsOf (q : QueryStep) (record : Record) (address : String) (response : Json) :
    Except RestError (List Record × Nat) :=
  match q.path.find response with
  | [] =>
    match q.onEmpty with
    | .fail => .error (.noResult address q.path.source)
    | .skip => .ok ([], 0)
    | .passThrough => .ok ([record], 0)
  | results =>
    if q.coalesce then .ok ([q.join record [.array results]], 1)
    else
      match Rows.divide results q.fields.length q.byColumn with
      | .ok rows => .ok (rows.map (q.join record), rows.length)
      | .error e => .error (.invalidResponse address e.message)

/-- The address of a page for a record. -/
def pageUrl (q : QueryStep) (record : Record) (s : PageState) : Except RestError Url :=
  match Template.render q.url record with
  | .error e => .error (.template e)
  | .ok rendered =>
    match Url.parse rendered with
    | .error e => .error (.invalidUrl rendered e.message)
    | .ok url => .ok (url.withPairs (q.paging.pairs s))

/-- What a page brought. -/
structure Page where
  records : List Record
  /-- Whether another page follows. -/
  more : Bool
  state : PageState
deriving Inhabited

/-- The page that stands for a record that is dropped. -/
def Page.dropped : Page := ⟨[], false, {}⟩

/-- What a page brings that is answered. Nothing comes of it where the program stops, because the
items up to the page cannot be counted. -/
def readPage (q : QueryStep) (record : Record) (page : PageState) (address : String) (response : Json) :
    Option (Except RestError Page) :=
  match q.rowsOf record address response with
  | .error e => some (.error e)
  | .ok (records, rows) =>
    (q.paging.advance page response rows).map fun (more, state) => .ok ⟨records, more, state⟩

/-- Asks for the page that a record stands at, again if need be. -/
def fetchPage {σ : Type} (q : QueryStep) (params : RequestParams) (net : Network σ) (record : Record)
    (page : PageState) (s : σ) : Option (Except RestError Page) × σ :=
  match q.pageUrl record page with
  | .error e => (some (.error e), s)
  | .ok url =>
    match q.retry.run net.wait (params.fetch net url) s with
    | (.error e, s) => (some (if e.hasStatus q.skipStatuses then .ok Page.dropped else .error e), s)
    | (.ok response, s) => (q.readPage record page url.text response, s)

end QueryStep

end MetaGraph

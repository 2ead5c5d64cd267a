/-
Why a chain of REST queries failed, and whether another attempt may help.
-/
import MetaGraph.Template

namespace MetaGraph

/-- A fault of a REST query. -/
inductive RestError where
  | http (url : String) (status : Nat)
  | transport (url message : String) (timeout : Bool)
  | invalidUrl (url message : String)
  | invalidResponse (url message : String)
  | invalidJsonPath (path message : String)
  | template (e : TemplateError)
  | noResult (url path : String)
  | config (message : String)
  | auth (message : String)
deriving DecidableEq, Repr

namespace RestError

def message : RestError → String
  | http url status => s!"HTTP {status} from {url}"
  | transport url text _ => s!"Request to {url} failed: {text}"
  | invalidUrl url text => s!"Invalid URL {Text.quoted url}: {text}"
  | invalidResponse url text => s!"Invalid response from {url}: {text}"
  | invalidJsonPath path text => s!"Invalid JSONPath {Text.quoted path}: {text}"
  | template e => e.message
  | noResult url path => s!"No result from {url} for JSONPath {Text.quoted path}"
  | config text => s!"Invalid query configuration: {text}"
  | auth text => s!"Authentication failed: {text}"

/-- The status a server answered with instead of a result. -/
def status? : RestError → Option Nat
  | http _ status => some status
  | _ => none

/-- The status that asks a client to slow down. -/
def tooManyRequests : Nat := 429

/-- Whether the same request may succeed later: it did not get through, the
server failed, or it was asked too often. -/
def isTransient : RestError → Bool
  | transport .. => true
  | http _ status => 500 ≤ status || status == tooManyRequests
  | _ => false

/-- Whether the server answered with one of the given statuses. -/
def hasStatus (statuses : List Nat) (e : RestError) : Bool :=
  match e.status? with
  | some status => statuses.contains status
  | none => false

end RestError

end MetaGraph

/-
Paging: whether the content of an address comes in pages, what tells the
next page from the last one, and which pairs ask for it. Where a query stands
is a page number and the total that its first page reported. Items are
counted in 64 bits, and a count that does not fit stops the program.
-/
import MetaGraph.Decimal.Power
import MetaGraph.JsonPath.Union

namespace MetaGraph

/-- How the content of an address is divided into pages. -/
inductive Paging where
  /-- A single page. -/
  | single
  /-- Pages of a given size up to a total that the first page reports. -/
  | numbered (size : Nat) (total : JsonPath) (counted : Option JsonPath)
  /-- Pages of a given size; the first one that is not full is the last. -/
  | full (size : Nat) (param : String)

/-- The page a query stands at. -/
structure PageState where
  page : Nat := 1
  /-- How many items there are on all pages, as far as a page has told. -/
  total : Option Nat := none
deriving DecidableEq, Repr, Inhabited

namespace Paging

/-- A page holds at least one item. -/
def pageSize (size : Nat) : Nat := max 1 size

/-- The pairs that ask for the page. -/
def pairs (s : PageState) : Paging → List (String × String)
  | single => []
  | numbered size _ _ => [("pageSize", toString size), ("pageNumber", toString s.page)]
  | full _ param => [(param, toString s.page)]

/-- A number of items, whether as a number or as a text. -/
def count? : Json → Option Nat
  | .int n => if 0 ≤ n then some n.toNat else none
  | .text s =>
    match Decimal.uint64 (Text.trim s) with
    | .ok n => some n.toNat
    | .error _ => none
  | _ => none

/-- The total that a page reports. -/
def reportedTotal? (path : JsonPath) (response : Json) : Option Nat :=
  (path.find response).head?.bind count?

/-- How many items the pages hold up to a given one, if the number fits into 64 bits. -/
def reached? (page size : Nat) : Option Nat :=
  if page * size < twoTo 64 then some (page * size) else none

/-- Whether another page follows one on which `rows` records were found, and where
the query stands then; after the last page it stands at the first again. The program
stops where the items up to a page on which something was found cannot be counted. -/
def advance (s : PageState) (response : Json) (rows : Nat) : Paging → Option (Bool × PageState)
  | single => some (false, s)
  | numbered size totalPath counted =>
    let total := s.total <|> reportedTotal? totalPath response
    let rows :=
      match counted with
      | some path => (path.find response).length
      | none => rows
    if rows = 0 then some (false, {})
    else
      (reached? s.page size).map fun items =>
        if items < total.getD 0 then (true, { page := s.page + 1, total }) else (false, {})
  | full size _ =>
    some (if size ≤ rows then (true, { s with page := s.page + 1 }) else (false, {}))

end Paging

end MetaGraph

/-
A chain of queries: seed records, each joined with the answers of one step
after the other. A chain is pulled record by record, and a record goes
through all its pages before the next one is taken. A chain works in small
moves, each of which sends at most one page's requests, so that a pull that
never ends is a run of moves that never ends and not a missing answer.
-/
import MetaGraph.Rest.Step

namespace MetaGraph

/-- Where a step of a chain stands. -/
structure StepState where
  params : RequestParams
  authenticated : Bool := false
  /-- The inbound record of which another page is due. -/
  current : Option Record := none
  /-- Records found and not yet handed out. -/
  pending : List Record := []
  page : PageState := {}
deriving Inhabited

/-- A chain: its seed, or a step over the chain that feeds it. -/
inductive Chain where
  | seed (records : List Record)
  | step (query : QueryStep) (state : StepState) (inner : Chain)

/-- What a single move of a chain comes to. -/
inductive Move where
  | record (r : Record)
  /-- No records are left. -/
  | finished
  | failed (e : RestError)
  /-- The items of the pages cannot be counted in 64 bits, and the program stops. -/
  | overflow
  /-- Nothing yet; the chain goes on with its next move. -/
  | working
deriving DecidableEq, Inhabited

namespace Chain

variable {σ : Type}

/-- A step at its start over the chain that feeds it. -/
def addStep (inner : Chain) (q : QueryStep) : Chain := .step q { params := q.params } inner

/-- The outermost step's page for a record, its records queued. -/
def takePage (net : Network σ) (q : QueryStep) (state : StepState) (inner : Chain) (record : Record)
    (s : σ) : Move × Chain × σ :=
  match q.fetchPage state.params net record state.page s with
  | (none, s) => (.overflow, .step q { state with current := none } inner, s)
  | (some (.error e), s) => (.failed e, .step q { state with current := none } inner, s)
  | (some (.ok page), s) =>
    let state :=
      { state with
        current := if page.more then some record else none
        pending := page.records
        page := page.state }
    (.working, .step q state inner, s)

/-- One move of an authenticated step; `feed` moves the chain that feeds it. -/
def moveStep (net : Network σ) (feed : σ → Move × Chain × σ) (q : QueryStep) (state : StepState)
    (inner : Chain) (s : σ) : Move × Chain × σ :=
  match state.pending with
  | r :: rest => (.record r, .step q { state with pending := rest } inner, s)
  | [] =>
    match state.current with
    | some record => takePage net q { state with current := none } inner record s
    | none =>
      match feed s with
      | (.record record, inner, s) => takePage net q { state with page := {} } inner record s
      | (m, inner, s) => (m, .step q state inner, s)

/-- One move of a chain. -/
def move (net : Network σ) : Chain → σ → Move × Chain × σ
  | .seed [], s => (.finished, .seed [], s)
  | .seed (r :: rest), s => (.record r, .seed rest, s)
  | .step q state inner, s =>
    if state.authenticated then moveStep net (inner.move net) q state inner s
    else
      match q.authenticate state.params with
      | .error e => (.failed e, .step q state inner, s)
      | .ok params =>
        let state := { state with params, authenticated := true }
        moveStep net (inner.move net) q state inner s

/-- Moves a chain until it answers, at most `fuel` times. -/
def pull (net : Network σ) : Nat → Chain → σ → Move × Chain × σ
  | 0, c, s => (.working, c, s)
  | fuel + 1, c, s =>
    match c.move net s with
    | (.working, c, s) => pull net fuel c s
    | answer => answer

/-- The records of all pulls up to the end of a chain, in at most `fuel` moves;
nothing if these do not suffice or the program stops. -/
def collect (net : Network σ) : Nat → Chain → σ → Option (Except RestError (List Record)) × σ
  | 0, _, s => (none, s)
  | fuel + 1, c, s =>
    match c.move net s with
    | (.working, c, s) => collect net fuel c s
    | (.record r, c, s) =>
      let (rest, s) := collect net fuel c s
      (rest.map fun result => result.map (r :: ·), s)
    | (.finished, _, s) => (some (.ok []), s)
    | (.failed e, _, s) => (some (.error e), s)
    | (.overflow, _, s) => (none, s)

end Chain

end MetaGraph

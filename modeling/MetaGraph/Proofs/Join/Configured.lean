/-
Chains as configurations describe them, pulled over any network. The main
statement puts the parts together: the calls of a built chain answer as the
nested loops of its steps do, with the same requests sent before each
answer, and the records that the loops take from a page are those that the
page yields by its matches, the policy and the fields of the step.
-/
import MetaGraph.Proofs.Except
import MetaGraph.Proofs.Join.Pulling
import MetaGraph.Proofs.Join.Records

namespace MetaGraph

open Join

/-- The network with a list of the requests that were sent, in order. -/
def Network.recorded {σ : Type} (net : Network σ) : Network (σ × List Request) where
  send request s :=
    let (reply, state) := net.send request s.1
    (reply, state, s.2 ++ [request])
  wait ms s := (net.wait ms s.1, s.2)

/-- The address of a request only tells in which words it failed. -/
theorem Reply.value_of_toOption {reply : Reply} {address : String} {v : Json}
    (h : (reply.value address).toOption = some v) (other : String) : reply.value other = .ok v := by
  have answered := except_eq_ok_of_toOption h
  unfold value at answered ⊢
  repeat' split at answered
  all_goals simp_all

/-- Fields are accepted if there are some, and a single one if the step coalesces. -/
theorem QueryStep.named_of_checkFields {url : String} {fields : List String} {coalesce : Bool}
    (h : checkFields url fields coalesce = .ok ()) :
    fields ≠ [] ∧ (coalesce = true → fields.length = 1) := by
  unfold checkFields at h
  split at h
  · cases h
  split at h
  · cases h
  rename_i named single
  refine ⟨named, fun gathers => ?_⟩
  have given : 1 ≤ fields.length := List.length_pos_iff.2 named
  have few : ¬ 1 < fields.length := fun several => single ⟨gathers, several⟩
  omega

namespace QueryConfig

variable {c : QueryConfig} {params : RequestParams} {retry : RetryConfig} {q : QueryStep}

/-- What a built step is made of. -/
theorem build_eq_ok (h : c.build params retry = .ok q) :
    ∃ paging path, c.paging.build = .ok paging ∧ JsonPath.parse c.jsonPath = .ok path ∧
      QueryStep.checkFields c.url c.fieldNames c.coalesce = .ok () ∧
      q = { c with path, fields := c.fieldNames, params := params.override c.params, paging, retry } := by
  obtain ⟨paging, hp, h⟩ := except_bind_ok.1 h
  obtain ⟨⟨⟩, checked, h⟩ := except_bind_ok.1 h
  obtain ⟨path, parsed, h⟩ := except_bind_ok.1 h
  exact ⟨paging, path, hp, parsed, checked, (Except.ok.inj h).symm⟩

/-- What a built step promises: nothing stands in the way of its requests, and it has fields, a
single one if it coalesces. -/
theorem build_ok (h : c.build params retry = .ok q) :
    q.authenticate = .ok ∧ q.fields ≠ [] ∧ (q.coalesce = true → q.fields.length = 1) := by
  obtain ⟨paging, path, -, -, checked, rfl⟩ := build_eq_ok h
  exact ⟨rfl, QueryStep.named_of_checkFields checked⟩

end QueryConfig

namespace Chain

/-- The chain of some steps over another chain. -/
def addSteps (inner : Chain) (steps : List QueryStep) : Chain := steps.foldl addStep inner

/-- A chain at its start is all of its loops. -/
theorem remaining_addSteps {σ : Type} (net : Network σ) (b : Nat) (s : σ) :
    ∀ (steps : List QueryStep) (inner : Chain),
      (inner.addSteps steps).remaining net b emit s = inner.remaining net b (throughSteps net b steps) s
  | [], _ => rfl
  | q :: later, inner => by
    have h := remaining_addSteps net b s later (inner.addStep q)
    rw [addSteps, List.foldl_cons]
    exact h

theorem ready_addSteps : ∀ (steps : List QueryStep) {inner : Chain}, inner.Ready →
    (∀ q ∈ steps, q.authenticate = .ok) → (inner.addSteps steps).Ready
  | [], _, h, _ => h
  | q :: later, inner, h, ha => by
    have hq : q.authenticate = .ok := ha q (by simp)
    have first : (inner.addStep q).Ready := ⟨by simp [QueryStep.requestParams, hq], rfl, h⟩
    have rest := ready_addSteps later first fun p hp => ha p (by simp [hp])
    exact rest

end Chain

namespace ChainConfig

/-- The steps of the chain, each over the parameters and retries of the whole. -/
def querySteps (c : ChainConfig) : Except RestError (List QueryStep) :=
  c.steps.mapM (·.build c.params c.retry)

theorem foldlM_addStep {params : RequestParams} {retry : RetryConfig} :
    ∀ {configs : List QueryConfig} {inner chain : Chain},
      configs.foldlM (fun chain step => do pure (chain.addStep (← step.build params retry))) inner =
        Except.ok chain →
      ∃ steps, configs.mapM (·.build params retry) = .ok steps ∧ chain = inner.addSteps steps
  | [], inner, chain, h => by
    cases h
    exact ⟨[], rfl, rfl⟩
  | c :: rest, inner, chain, h => by
    rw [List.foldlM_cons] at h
    obtain ⟨first, added, h⟩ := except_bind_ok.1 h
    obtain ⟨q, hq, ⟨⟩⟩ := except_bind_ok.1 added
    obtain ⟨steps, hs, rfl⟩ := foldlM_addStep h
    refine ⟨q :: steps, ?_, rfl⟩
    rw [List.mapM_cons]
    exact except_bind_ok.2 ⟨q, hq, except_bind_ok.2 ⟨steps, hs, rfl⟩⟩

theorem build_eq {c : ChainConfig} {chain : Chain} (h : c.build = .ok chain) :
    ∃ steps, c.querySteps = .ok steps ∧ chain = (Chain.seed c.seedRecords).addSteps steps := by
  unfold build at h
  split at h
  · cases h
  · exact foldlM_addStep h

theorem mem_querySteps {c : ChainConfig} {steps : List QueryStep} (h : c.querySteps = .ok steps)
    {q : QueryStep} (hq : q ∈ steps) :
    q.authenticate = .ok ∧ q.fields ≠ [] ∧ (q.coalesce = true → q.fields.length = 1) := by
  obtain ⟨step, _, hb⟩ := mem_mapM_ok h q hq
  exact step.build_ok hb

end ChainConfig

/-- **A built chain is a nested-loop join.** Over every server the answers to the calls of the
chain, each with the state of the server and the requests sent so far, are those of the nested
loops of its steps, record by record, up to the end of the run or its first error. The records
that the loops take from a page are those that its answer yields: by the policy if nothing matches,
else one record for each row of the matches, or for all of them if the step coalesces, the inbound
record being overwritten in the fields of the step only. -/
theorem calls_iff_nestedLoops {c : ChainConfig} {chain : Chain} (h : c.build = .ok chain) :
    ∃ steps, c.querySteps = .ok steps ∧
      (∀ {σ : Type} (server : Network σ) (s : σ) (answers : List (Move × σ × List Request)),
        chain.Calls server.recorded (s, []) answers ↔
          ∃ budget, answers <+:
            (nestedLoops server.recorded budget steps c.seedRecords (s, [])).answers) ∧
      ∀ q ∈ steps, ∀ record address response,
        q.Yields record address response (q.rowsOf record address response) := by
  obtain ⟨steps, hs, rfl⟩ := ChainConfig.build_eq h
  refine ⟨steps, hs, fun server s answers => ?_, fun q hq record address response => ?_⟩
  · have ready : (Chain.addSteps (.seed c.seedRecords) steps).Ready :=
      Chain.ready_addSteps steps trivial fun q hq => (ChainConfig.mem_querySteps hs hq).1
    rw [Chain.calls_iff_remaining ready]
    simp only [Chain.remaining_addSteps]
    exact Iff.rfl
  · obtain ⟨-, named, single⟩ := ChainConfig.mem_querySteps hs hq
    exact QueryStep.yields_rowsOf named single record address response

/-! ## A chain of two steps -/

/-- Orders of two customers, page by page, and the names and prices of what was ordered. -/
def orderedItems : ChainConfig where
  seed := [[("customer", .text "ada")], [("customer", .text "bob")]]
  steps := [
    { url := "http://shop/orders/{customer}", jsonPath := "orders[*].id", fieldNames := ["order"],
      paging := .full 2 "page", onEmpty := .skip, skipStatuses := [404] },
    { url := "http://shop/items/{order}", jsonPath := "items[*]['name', 'price']",
      fieldNames := ["name", "price"] }]

theorem build_orderedItems : ∃ chain, orderedItems.build = .ok chain :=
  exists_eq_ok_of_isOk (by decide +kernel)

def shopRequest (path : String) (query : Option String) : Request where
  url := { scheme := "http", host := some "shop", path, query }

/-- A shop in which ada has three orders, on two pages. The first is of two items, the last of none, and
bob is not known. The state counts the requests. -/
def orderServer : Network Nat where
  send request s :=
    let page (member : String) (elements : List Record) : Reply :=
      .answer 200 (Utf8.encode (Json.object [(member, .array (elements.map .object))]).compact)
    let reply : Reply :=
      match request.url.text with
      | "http://shop/orders/ada?page=1" => page "orders" [[("id", .int 1)], [("id", .int 2)]]
      | "http://shop/orders/ada?page=2" => page "orders" [[("id", .int 3)]]
      | "http://shop/items/1" => page "items" [[("name", .text "pen"), ("price", .int 2)],
          [("name", .text "ink"), ("price", .int 5)]]
      | "http://shop/items/2" => page "items" [[("name", .text "nib"), ("price", .int 1)]]
      | "http://shop/items/3" => page "items" []
      | _ => .answer 404 []
    (reply, s + 1)
  wait _ s := s

def orderRequests : List Request := [
  shopRequest "/orders/ada" (some "page=1"), shopRequest "/items/1" none, shopRequest "/items/2" none,
  shopRequest "/orders/ada" (some "page=2"), shopRequest "/items/3" none,
  shopRequest "/orders/bob" (some "page=1")]

/-- What comes out, with how many requests were sent by then: depth first, the items of an order before
the next one, and the orders of a page before the next page. -/
def orderAnswers : List (Move × Nat × List Request) :=
  [(.record [("customer", .text "ada"), ("name", .text "pen"), ("order", .int 1), ("price", .int 2)], 2),
    (.record [("customer", .text "ada"), ("name", .text "ink"), ("order", .int 1), ("price", .int 5)], 2),
    (.record [("customer", .text "ada"), ("name", .text "nib"), ("order", .int 2), ("price", .int 1)], 3),
    (.record [("customer", .text "ada"), ("order", .int 3)], 5),
    (.finished, 6)].map fun (answer, sent) => (answer, sent, orderRequests.take sent)

theorem nestedLoops_orderedItems : orderedItems.querySteps.toOption.map (fun steps =>
    (nestedLoops orderServer.recorded 2 steps orderedItems.seedRecords (0, [])).answers) =
      some orderAnswers := by
  decide +kernel

/-- All orders of the shop, item by item. -/
theorem calls_orderedItems : ∃ chain, orderedItems.build = .ok chain ∧
    chain.Calls orderServer.recorded (0, []) orderAnswers := by
  obtain ⟨chain, hb⟩ := build_orderedItems
  obtain ⟨steps, hs, calls, -⟩ := calls_iff_nestedLoops hb
  have loops : (nestedLoops orderServer.recorded 2 steps orderedItems.seedRecords (0, [])).answers =
      orderAnswers := by
    have evaluated := nestedLoops_orderedItems
    rw [hs] at evaluated
    exact Option.some.inj evaluated
  exact ⟨chain, hb, (calls orderServer 0 orderAnswers).2 ⟨2, loops ▸ List.prefix_refl _⟩⟩

end MetaGraph

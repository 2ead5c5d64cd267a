/-
What a request carries where a step lays its parameters over those of its
chain. The parameters are replaced key by key and credential by credential,
but a server reads headers: their names in one case, and both credentials
under one name. So what the chain sends under a name that the step sets too
is gone only if the step gives each parameter of that name itself.
-/
import MetaGraph.Proofs.Join.ListedStatus
import MetaGraph.Proofs.KeyMap

namespace MetaGraph

namespace Request

/-- The name of a header as it is sent. -/
def wireName (name : String) : String := String.ofList (name.toList.map Char.toLower)

/-- The values of all headers of a name, in order. -/
def valuesOf (name : String) (headers : List (String × String)) : List String :=
  (headers.filter (·.1 = name)).map Prod.snd

theorem valuesOf_append (name : String) (headers more : List (String × String)) :
    valuesOf name (headers ++ more) = valuesOf name headers ++ valuesOf name more := by
  simp [valuesOf]

end Request

open Request

namespace RequestParams

/-- The headers that parameters give by name. -/
def named (p : RequestParams) : List (String × String) := p.headers.map fun h => (wireName h.1, h.2)

/-- The headers that parameters give by credentials. -/
def credentials (p : RequestParams) : List (String × String) :=
  (p.basicAuth.map BasicAuth.header).toList ++ (p.bearerToken.map bearerHeader).toList

/-- All headers that parameters give. -/
def sent (p : RequestParams) : List (String × String) := p.named ++ p.credentials

/-- A header of the name is among those that the parameters give. -/
def Sets (p : RequestParams) (name : String) : Prop := name ∈ p.sent.map Prod.fst

/-- Each credential of the chain has one of its kind in the step. -/
def ReplacesCredentials (step chain : RequestParams) : Prop :=
  (chain.basicAuth.isSome → step.basicAuth.isSome) ∧ (chain.bearerToken.isSome → step.bearerToken.isSome)

/-- Each parameter of the chain that is sent under the name, the step gives itself. -/
structure Replaces (step chain : RequestParams) (name : String) : Prop where
  headers : ∀ k ∈ chain.headers.map Prod.fst, wireName k = name → k ∈ step.headers.map Prod.fst
  credentials : name = authorization → step.ReplacesCredentials chain

theorem headers_of_build {p : RequestParams} {url : Url} {request : Request}
    (h : Request.build url p = .ok request) : request.headers = userHeaders url ++ p.sent := by
  rw [Request.build] at h
  split at h
  · cases h
  split at h
  · cases h
  split at h
  · cases h
  simp only at h
  split at h
  · cases h
    simp only [sent, named, credentials, List.append_assoc]
    rfl
  · cases h

/-! ## Headers given by name -/

section Named

variable {chain step : RequestParams} {name : String}

theorem valuesOf_named (p : RequestParams) (name : String) :
    valuesOf name p.named = (p.headers.filter (wireName ·.1 = name)).map Prod.snd := by
  simp [valuesOf, named, List.filter_map, Function.comp_def]

theorem named_override_of_unset (h : name ∉ step.named.map Prod.fst) :
    valuesOf name (chain.override step).named = valuesOf name chain.named := by
  rw [valuesOf_named, valuesOf_named]
  refine congrArg _ (KeyMap.filter_extend_of_not (p := (wireName · = name)) _ fun k hk => ?_)
  refine decide_eq_false fun same => h ?_
  obtain ⟨entry, he, rfl⟩ := List.mem_map.1 hk
  exact List.mem_map.2 ⟨(wireName entry.1, entry.2), List.mem_map_of_mem he, same⟩

theorem named_override_of_replaced (ordered : chain.headers.Sorted) (ordered' : step.headers.Sorted)
    (h : ∀ k ∈ chain.headers.map Prod.fst, wireName k = name → k ∈ step.headers.map Prod.fst) :
    valuesOf name (chain.override step).named = valuesOf name step.named := by
  rw [valuesOf_named, valuesOf_named]
  exact congrArg _ (KeyMap.filter_extend_of_covered (p := (wireName · = name)) ordered ordered' (by simpa using h))

theorem length_named_lt (ordered' : step.headers.Sorted) {k : String} (given : k ∈ chain.headers.map Prod.fst)
    (same : wireName k = name) (other : k ∉ step.headers.map Prod.fst) :
    (valuesOf name step.named).length < (valuesOf name (chain.override step).named).length := by
  rw [valuesOf_named, valuesOf_named, List.length_map, List.length_map]
  exact KeyMap.length_filter_extend_lt (p := (wireName · = name)) ordered' given (decide_eq_true same) other

/-- What the step gives is among what is sent. -/
theorem length_named_le (ordered : chain.headers.Sorted) (ordered' : step.headers.Sorted) :
    (valuesOf name step.named).length ≤ (valuesOf name (chain.override step).named).length := by
  by_cases h : ∀ k ∈ chain.headers.map Prod.fst, wireName k = name → k ∈ step.headers.map Prod.fst
  · rw [named_override_of_replaced ordered ordered' h]
  · simp only [not_forall] at h
    obtain ⟨k, given, same, other⟩ := h
    exact (length_named_lt ordered' given same other).le

theorem named_override_eq_iff (ordered : chain.headers.Sorted) (ordered' : step.headers.Sorted) :
    valuesOf name (chain.override step).named = valuesOf name step.named ↔
      ∀ k ∈ chain.headers.map Prod.fst, wireName k = name → k ∈ step.headers.map Prod.fst := by
  refine ⟨fun h k given same => ?_, named_override_of_replaced ordered ordered'⟩
  by_contra other
  have longer := length_named_lt ordered' given same other
  rw [h] at longer
  exact longer.ne rfl

end Named

/-! ## Credentials -/

section Credentials

variable {chain step : RequestParams} {name : String}

theorem fst_of_mem_credentials {p : RequestParams} {header : String × String} (h : header ∈ p.credentials) :
    header.1 = authorization := by
  simp only [credentials, List.mem_append, Option.mem_toList, Option.map_eq_some_iff] at h
  rcases h with ⟨_, _, rfl⟩ | ⟨_, _, rfl⟩ <;> rfl

theorem valuesOf_credentials (p : RequestParams) (name : String) :
    valuesOf name p.credentials = if name = authorization then p.credentials.map Prod.snd else [] := by
  split
  · rename_i same
    rw [valuesOf, List.filter_eq_self.2 fun h hm => decide_eq_true ((fst_of_mem_credentials hm).trans same.symm)]
  · rename_i other
    rw [valuesOf, List.filter_eq_nil_iff.2 fun h hm same => other ?_, List.map_nil]
    exact (of_decide_eq_true same).symm.trans (fst_of_mem_credentials hm)

theorem credentials_override_of_none (h : step.credentials = []) :
    (chain.override step).credentials = chain.credentials := by
  simp_all [credentials, override]

theorem length_credentials_le :
    step.credentials.length ≤ (chain.override step).credentials.length := by
  simp only [credentials, override]
  cases step.basicAuth <;> cases step.bearerToken <;> simp

theorem length_credentials_eq_iff :
    (chain.override step).credentials.length = step.credentials.length ↔ step.ReplacesCredentials chain := by
  rw [ReplacesCredentials, credentials, credentials, override]
  cases chain.basicAuth <;> cases chain.bearerToken <;> cases step.basicAuth <;> cases step.bearerToken <;> simp

theorem credentials_override_eq_iff :
    (chain.override step).credentials = step.credentials ↔ step.ReplacesCredentials chain := by
  refine ⟨fun h => length_credentials_eq_iff.1 (congrArg _ h), fun ⟨basic, bearer⟩ => ?_⟩
  simp only [credentials, override]
  cases hb : step.basicAuth <;> cases ht : step.bearerToken <;> simp_all

end Credentials

/-! ## All headers -/

section Sent

variable {chain step : RequestParams} {name : String}

/-- Where the step sets nothing, the chain is heard. -/
theorem sent_override_of_unset (h : ¬ step.Sets name) :
    valuesOf name (chain.override step).sent = valuesOf name chain.sent := by
  simp only [Sets, sent, List.map_append, List.mem_append, not_or] at h
  rw [sent, sent, valuesOf_append, valuesOf_append, named_override_of_unset h.1, valuesOf_credentials,
    valuesOf_credentials]
  split
  · rename_i same
    have none : step.credentials = [] := List.eq_nil_iff_forall_not_mem.2 fun header hm =>
      h.2 (List.mem_map.2 ⟨header, hm, (fst_of_mem_credentials hm).trans same.symm⟩)
    rw [credentials_override_of_none none]
  · rfl

/-- Two lists in a row are not changed by longer ones in their places only if neither is. -/
theorem append_eq_append_iff_of_length_le {α : Type} {a a' b b' : List α} (ha : a.length ≤ a'.length)
    (hb : b.length ≤ b'.length) : a' ++ b' = a ++ b ↔ a' = a ∧ b' = b := by
  refine ⟨fun h => List.append_inj h ?_, by rintro ⟨rfl, rfl⟩; rfl⟩
  have total := congrArg List.length h
  rw [List.length_append, List.length_append] at total
  omega

theorem sent_override_eq_iff (ordered : chain.headers.Sorted) (ordered' : step.headers.Sorted) :
    valuesOf name (chain.override step).sent = valuesOf name step.sent ↔ step.Replaces chain name := by
  have longer : (valuesOf name step.credentials).length ≤
      (valuesOf name (chain.override step).credentials).length := by
    rw [valuesOf_credentials, valuesOf_credentials]
    split
    · simpa only [List.length_map] using length_credentials_le
    · exact le_rfl
  have credentials : valuesOf name (chain.override step).credentials = valuesOf name step.credentials ↔
      (name = authorization → step.ReplacesCredentials chain) := by
    rw [valuesOf_credentials, valuesOf_credentials]
    split
    · rename_i same
      refine ⟨fun h _ => length_credentials_eq_iff.1 ?_, fun h => by rw [credentials_override_eq_iff.2 (h same)]⟩
      simpa only [List.length_map] using congrArg List.length h
    · rename_i other
      exact ⟨fun _ same => absurd same other, fun _ => rfl⟩
  rw [sent, sent, valuesOf_append, valuesOf_append,
    append_eq_append_iff_of_length_le (length_named_le ordered ordered') longer,
    named_override_eq_iff ordered ordered', credentials]
  exact ⟨fun ⟨h, h'⟩ => ⟨h, h'⟩, fun ⟨h, h'⟩ => ⟨h, h'⟩⟩

end Sent

end RequestParams

/-! ## The requests of a step -/

/-- All that a step sends for a page is the request for its address, however often. -/
theorem QueryStep.mem_sent {σ : Type} {net : Network σ} {q : QueryStep} {record : Record} {page : PageState}
    {s : σ} {request : Request}
    (h : request ∈ (q.fetchPage q.requestParams net.recorded record page (s, [])).2.2) :
    ∃ url, q.pageUrl record page = .ok url ∧ Request.build url q.requestParams = .ok request := by
  cases asked : q.pageUrl record page with
  | error e =>
    rw [fetchPage, asked] at h
    cases h
  | ok url =>
    let Built (_ : Nat) (s : σ × List Request) := ∀ r ∈ s.2, Request.build url q.requestParams = .ok r
    have waited (ms n : Nat) (s : σ × List Request) (kept : Built n s) : Built n (net.recorded.wait ms s) := kept
    have fetched (n : Nat) (s : σ × List Request) (kept : Built n s) :
        Built (n + 1) (q.requestParams.fetch net.recorded url s).2 := by
      rw [RequestParams.fetch]
      split
      · exact kept
      · rename_i made
        refine fun r hr => (List.mem_append.1 hr).elim (kept r) fun hr => ?_
        rwa [List.mem_singleton.1 hr]
    have none : Built 0 (s, []) := fun _ hr => absurd hr List.not_mem_nil
    obtain ⟨n, -, kept⟩ := RetryConfig.run_keeps waited fetched q.retry none
    refine ⟨url, rfl, kept request ?_⟩
    rw [fetchPage, asked] at h
    dsimp only at h
    split at h <;> simp_all

theorem QueryConfig.requestParams_build {c : QueryConfig} {chain : RequestParams} {retry : RetryConfig}
    {q : QueryStep} (h : c.build chain retry = .ok q) : q.requestParams = chain.override c.params := by
  obtain ⟨paging, path, -, -, -, rfl⟩ := build_eq_ok h
  rfl

/-- **What a step overrides of its chain.** In each request of a built step a header that the step
does not set has the values of the chain. One that it sets has the values of the step alone exactly
if the step replaces each parameter of the chain that is sent under this name: by the same key, not
only the same name, and by a credential of the same kind, not only by a credential. -/
theorem sent_headers {c : QueryConfig} {chain : RequestParams} {retry : RetryConfig} {q : QueryStep}
    (built : c.build chain retry = .ok q) (ordered : chain.headers.Sorted) (ordered' : c.params.headers.Sorted)
    {σ : Type} {net : Network σ} {record : Record} {page : PageState} {s : σ} {request : Request}
    (sent : request ∈ (q.fetchPage q.requestParams net.recorded record page (s, [])).2.2) :
    ∃ url, q.pageUrl record page = .ok url ∧
      request.headers = userHeaders url ++ (chain.override c.params).named ++
        (chain.override c.params).credentials ∧
      (∀ name, ¬ c.params.Sets name →
        valuesOf name request.headers = valuesOf name (userHeaders url ++ chain.sent)) ∧
      (∀ name, valuesOf name request.headers = valuesOf name (userHeaders url ++ c.params.sent) ↔
        c.params.Replaces chain name) ∧
      ((chain.override c.params).credentials = c.params.credentials ↔
        c.params.ReplacesCredentials chain) := by
  obtain ⟨url, asked, made⟩ := QueryStep.mem_sent sent
  rw [QueryConfig.requestParams_build built] at made
  have headers := RequestParams.headers_of_build made
  refine ⟨url, asked, headers.trans (List.append_assoc ..).symm, fun name unset => ?_, fun name => ?_,
    RequestParams.credentials_override_eq_iff⟩
  · rw [headers, valuesOf_append, valuesOf_append, RequestParams.sent_override_of_unset unset]
  · rw [headers, valuesOf_append, valuesOf_append, List.append_cancel_left_eq,
      RequestParams.sent_override_eq_iff ordered ordered']

namespace Join

/-- Parameters of a chain: two headers and a user. -/
def shopParams : RequestParams where
  headers := [("Accept", "text/html"), ("X-Org", "acme")]
  basicAuth := some { username := "ada" }

/-- A step within that chain. -/
def ownQuery (own : RequestParams) : QueryConfig := { itemQuery .skip with params := own }

def ownStep (own : RequestParams) : QueryStep := { itemStep .skip with params := shopParams.override own }

theorem build_ownQuery (own : RequestParams) : (ownQuery own).build shopParams {} = .ok (ownStep own) := by
  simp only [ownQuery, itemQuery, QueryConfig.build, PagingConfig.build, parse_elements]
  rfl

/-- The requests of the step for its first page. -/
def ownRequests (own : RequestParams) : List Request :=
  ((ownStep own).fetchPage (ownStep own).requestParams (steadyServer 200 "[]").recorded shop {} (0, [])).2.2

def plainParams : RequestParams where
  headers := [("Accept", "text/plain")]

def plainRequest : Request where
  url := firstPage
  headers := [("accept", "text/plain"), ("x-org", "acme"), ("authorization", "Basic YWRhOg==")]

theorem sent_accept_plain : plainRequest ∈ ownRequests plainParams ∧
    ¬ plainParams.Sets "x-org" ∧ valuesOf "x-org" plainRequest.headers = ["acme"] ∧
    plainParams.Replaces shopParams "accept" ∧ valuesOf "accept" plainRequest.headers = ["text/plain"] := by
  have sent : plainRequest ∈ ownRequests plainParams := by decide +kernel
  have unset : ¬ plainParams.Sets "x-org" := by
    rw [RequestParams.Sets]
    decide +kernel
  have replaces : plainParams.Replaces shopParams "accept" := 
    ⟨by decide +kernel, fun same => absurd same (by decide)⟩
  obtain ⟨url, asked, -, others, own, -⟩ := sent_headers (build_ownQuery plainParams)
    (List.pairwise_pair.2 (by decide)) (List.pairwise_singleton _ _) sent
  have first : (ownStep plainParams).pageUrl shop {} = .ok firstPage :=
    except_eq_ok_of_toOption (by decide +kernel)
  cases first.symm.trans asked
  exact ⟨sent, unset, others _ unset, replaces, (own _).2 replaces⟩

/-- The same header in another spelling, and a credential of another kind. -/
def otherParams : RequestParams where
  headers := [("accept", "text/plain")]
  bearerToken := some "abc"

def doubledRequest : Request where
  url := firstPage
  headers := [("accept", "text/html"), ("x-org", "acme"), ("accept", "text/plain"),
    ("authorization", "Basic YWRhOg=="), ("authorization", "Bearer abc")]

/-- The step sets one header and brings its own credential. What the chain has of both goes out before
what the step has. -/
theorem sent_doubled : (ownQuery otherParams).build shopParams {} = .ok (ownStep otherParams) ∧
    doubledRequest ∈ ownRequests otherParams ∧ otherParams.Sets "accept" ∧
    valuesOf "accept" otherParams.sent = ["text/plain"] ∧
    valuesOf "accept" doubledRequest.headers = ["text/html", "text/plain"] ∧
    otherParams.credentials = [("authorization", "Bearer abc")] ∧
    valuesOf "authorization" doubledRequest.headers = ["Basic YWRhOg==", "Bearer abc"] := by
  refine ⟨build_ownQuery otherParams, by decide +kernel, ?_, by decide +kernel⟩
  rw [RequestParams.Sets]
  decide +kernel

end Join

end MetaGraph

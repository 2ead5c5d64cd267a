/-
A page that a server keeps answering with one status, where the step lists
that status as one to skip. The status is retried first and skipped
afterwards: one that may pass uses up all attempts, any other one a single
attempt, and then the step is done with the record. A success that is listed
is no failure, so it is asked for once and read as if it were not listed.
-/
import MetaGraph.Proofs.Join.Attempts
import MetaGraph.Proofs.Join.Configured
import MetaGraph.Proofs.Join.EmptyResult
import MetaGraph.Proofs.Join.Moves

namespace MetaGraph

/-- The server answers the request with the status whenever it is sent. The body may change. -/
def Network.KeepsAnswering {σ : Type} (net : Network σ) (request : Request) (status : Nat) : Prop :=
  ∀ s, ∃ body, (net.send request s).1 = .answer status body

/-- How many attempts are made where all are answered with the status. -/
def RetryConfig.triesOf (c : RetryConfig) (status : Nat) : Nat :=
  if 500 ≤ status ∨ status = 429 then max 1 c.maxAttempts else 1

/-! ## One answer -/

namespace Reply

variable {status : Nat} {body : Bytes} {address : String}

theorem value_of_failure (h : status < 200 ∨ 299 < status) :
    (answer status body).value address = .error (.http address status) := by
  rw [value, if_pos h]

/-- A success fails only by its body, and then has no status of its own. -/
theorem status?_of_success (h : 200 ≤ status ∧ status ≤ 299) {e : RestError}
    (failed : (answer status body).value address = .error e) : e.isTransient = false ∧ e.status? = none := by
  rw [value, if_neg (by omega)] at failed
  split at failed
  · cases failed
    exact ⟨rfl, rfl⟩
  · split at failed
    · cases failed
    · cases failed
      exact ⟨rfl, rfl⟩

theorem settled_value_iff :
    Settled ((answer status body).value address) ↔ ¬ (500 ≤ status ∨ status = 429) := by
  by_cases h : status < 200 ∨ 299 < status
  · rw [value_of_failure h, settled_error_iff]
    simp [RestError.isTransient, RestError.tooManyRequests]
  · exact iff_of_true (fun e failed => (status?_of_success (by omega) failed).1) (by omega)

end Reply

/-! ## All attempts -/

section Attempts

variable {σ : Type} {net : Network σ} {request : Request} {status : Nat} {p : RequestParams} {url : Url}

theorem RequestParams.fetch_answered (keeps : net.KeepsAnswering request status)
    (made : Request.build url p = .ok request) (s : σ) (sent : List Request) :
    ∃ body s', p.fetch net.recorded url (s, sent) =
      ((Reply.answer status body).value url.text, s', sent ++ [request]) := by
  obtain ⟨body, answered⟩ := keeps s
  refine ⟨body, (net.send request s).2, ?_⟩
  rw [fetch, made]
  simp only [Network.recorded, answered]

/-- Every attempt sends the request once and is answered with the status. -/
theorem RetryConfig.attempt_answered (c : RetryConfig) (keeps : net.KeepsAnswering request status)
    (made : Request.build url p = .ok request) (done k : Nat) (s : σ) (sent : List Request) :
    ∃ body s', c.attempt net.recorded.wait (p.fetch net.recorded url) done k (s, sent) =
      ((Reply.answer status body).value url.text, s', sent ++ List.replicate (k + 1) request) := by
  induction k generalizing done s sent with
  | zero => exact p.fetch_answered keeps made s sent
  | succ k ih =>
    obtain ⟨body, s', first⟩ := p.fetch_answered keeps made s sent
    obtain ⟨body', s'', later⟩ := ih (done + 1) (net.wait (c.backoff done) s') (sent ++ [request])
    refine ⟨body', s'', ?_⟩
    rw [attempt, first]
    refine later.trans ?_
    rw [List.replicate_succ (n := k + 1), List.append_assoc, List.singleton_append]

theorem RetryConfig.run_answered (c : RetryConfig) (keeps : net.KeepsAnswering request status)
    (made : Request.build url p = .ok request) (s : σ) (sent : List Request) :
    ∃ body s', c.run net.recorded.wait (p.fetch net.recorded url) (s, sent) =
      ((Reply.answer status body).value url.text, s',
        sent ++ List.replicate (c.triesOf status) request) := by
  have settled (k : Nat) : Settled (c.attempt net.recorded.wait (p.fetch net.recorded url) 0 k (s, sent)).1 ↔
      ¬ (500 ≤ status ∨ status = 429) := by
    obtain ⟨body, s', answered⟩ := c.attempt_answered keeps made 0 k s sent
    rw [answered]
    exact Reply.settled_value_iff
  obtain ⟨k, ⟨last, first⟩, same⟩ := c.run_eq net.recorded.wait (p.fetch net.recorded url) (s, sent)
  have tries : k + 1 = c.triesOf status := by
    rw [triesOf]
    split
    · rename_i passes
      exact last.resolve_right fun h => (settled k).1 h passes
    · rename_i stays
      have once : k ≤ 0 := first (.inr ((settled 0).2 stays))
      omega
  obtain ⟨body, s', answered⟩ := c.attempt_answered keeps made 0 k s sent
  exact ⟨body, s', by rw [same, answered, tries]⟩

end Attempts

/-! ## The page -/

namespace QueryStep

variable {σ : Type} {net : Network σ} {q : QueryStep} {record : Record} {page : PageState} {url : Url}
  {request : Request} {status : Nat}

/-- A failure that is listed drops the record, once the attempts have been made. -/
theorem fetchPage_listed (asked : q.pageUrl record page = .ok url)
    (made : Request.build url q.requestParams = .ok request) (keeps : net.KeepsAnswering request status)
    (listed : status ∈ q.skipStatuses) (failure : status < 200 ∨ 299 < status) (s : σ)
    (sent : List Request) :
    ∃ s', q.fetchPage q.requestParams net.recorded record page (s, sent) =
      (some (.ok .dropped), s', sent ++ List.replicate (q.retry.triesOf status) request) := by
  obtain ⟨body, s', answered⟩ := q.retry.run_answered keeps made s sent
  rw [Reply.value_of_failure failure] at answered
  have skipped : (RestError.http url.text status).hasStatus q.skipStatuses = true :=
    List.contains_iff_mem.2 listed
  refine ⟨s', ?_⟩
  simp only [fetchPage, asked, answered, skipped, if_true]

/-- What is listed does not matter to a success. -/
theorem fetchPage_success (asked : q.pageUrl record page = .ok url)
    (made : Request.build url q.requestParams = .ok request) (keeps : net.KeepsAnswering request status)
    (success : 200 ≤ status ∧ status ≤ 299) (s : σ) (sent : List Request) :
    ∃ result s', q.fetchPage q.requestParams net.recorded record page (s, sent) =
        (result, s', sent ++ [request]) ∧
      ({ q with skipStatuses := [] } : QueryStep).fetchPage q.requestParams net.recorded record page (s, sent) =
        (result, s', sent ++ [request]) := by
  obtain ⟨body, s', answered⟩ := q.retry.run_answered keeps made s sent
  rw [RetryConfig.triesOf, if_neg (by omega), List.replicate_one] at answered
  have asked' : ({ q with skipStatuses := [] } : QueryStep).pageUrl record page = .ok url := asked
  cases value : (Reply.answer status body).value url.text with
  | error e =>
    have unlisted (statuses : List Nat) : e.hasStatus statuses = false := by
      rw [RestError.hasStatus, (Reply.status?_of_success success value).2]
    refine ⟨some (.error e), s', ?_, ?_⟩ <;>
      simp only [fetchPage, asked, asked', answered, value, unlisted, Bool.false_eq_true, if_false]
  | ok response =>
    -- Both read the page out of the same answer.
    have read : q.fetchPage q.requestParams net.recorded record page (s, sent) =
        ({ q with skipStatuses := [] } : QueryStep).fetchPage q.requestParams net.recorded record page (s, sent) := by
      simp only [fetchPage, asked, asked', answered, value]
      rfl
    refine ⟨(q.fetchPage q.requestParams net.recorded record page (s, sent)).1, s', ?_, ?_⟩
    · simp only [fetchPage, asked, answered, value]
    · rw [← read]
      simp only [fetchPage, asked, answered, value]

end QueryStep

/-- **Retry first, skip afterwards.** Of a row of outcomes a run gives the first that is a success or
will not pass, unless its attempts are used up before. So where a server keeps answering a page
with a failure that the step lists, the step asks as often as it may if the failure may pass, and
once if not; in the next move it takes another record. A success is asked for once, whether it is
listed or not, and comes to the same. -/
theorem retried_then_skipped :
    (∀ {α : Type} (c : RetryConfig) (outcomes : Nat → Except RestError α),
      ∃ n, IsLeast {n | n = max 1 c.maxAttempts ∨ 0 < n ∧ Settled (outcomes (n - 1))} n ∧
        c.run (fun _ made => made) (fun made => (outcomes made, made + 1)) 0 = (outcomes (n - 1), n)) ∧
    ∀ {σ : Type} (net : Network σ) (q : QueryStep) (record : Record) (page : PageState) (inner : Chain)
      (url : Url) (request : Request) (status : Nat), q.pageUrl record page = .ok url →
      Request.build url q.requestParams = .ok request → net.KeepsAnswering request status →
      status ∈ q.skipStatuses → ∀ (s : σ) (sent : List Request),
        (status < 200 ∨ 299 < status → ∃ s', (q.standing record page inner).move net.recorded (s, sent) =
          (.working, q.done {} inner, s', sent ++ List.replicate
            (if 500 ≤ status ∨ status = 429 then max 1 q.retry.maxAttempts else 1) request)) ∧
        (200 ≤ status ∧ status ≤ 299 → ∃ result s',
          q.fetchPage q.requestParams net.recorded record page (s, sent) = (result, s', sent ++ [request]) ∧
          ({ q with skipStatuses := [] } : QueryStep).fetchPage q.requestParams net.recorded record page
            (s, sent) = (result, s', sent ++ [request])) := by
  refine ⟨RetryConfig.run_outcomes, ?_⟩
  intro σ net q record page inner url request status asked made keeps listed s sent
  refine ⟨fun failure => ?_, fun success => QueryStep.fetchPage_success asked made keeps success s sent⟩
  obtain ⟨s', dropped⟩ := QueryStep.fetchPage_listed asked made keeps listed failure s sent
  exact ⟨s', QueryStep.move_page dropped⟩

namespace Join

/-- A server that always answers in the same way. The state counts the requests. -/
def steadyServer (status : Nat) (body : String) : Network Nat where
  send _ s := (.answer status (Utf8.encode body), s + 1)
  wait _ s := s

theorem steadyServer_keeps (request : Request) (status : Nat) (body : String) :
    (steadyServer status body).KeepsAnswering request status := fun _ => ⟨Utf8.encode body, rfl⟩

/-- The items of a shop, where some statuses are to be skipped. -/
def listingStep (statuses : List Nat) : QueryStep :=
  { itemStep .skip with skipStatuses := statuses, retry := { maxAttempts := 3 } }

/-- The first page of the items of the shop. -/
def firstPage : Url := { scheme := "http", host := some "shop", path := "/1", query := some "page=1" }

theorem pageUrl_firstPage (statuses : List Nat) : (listingStep statuses).pageUrl shop {} = .ok firstPage := by
  have asked : (itemStep .skip).pageUrl shop {} = .ok firstPage := except_eq_ok_of_toOption (by decide +kernel)
  simpa only [QueryStep.pageUrl, listingStep] using asked

theorem build_firstPage (statuses : List Nat) :
    Request.build firstPage (listingStep statuses).requestParams = .ok { url := firstPage } := by
  have made : Request.build firstPage {} = .ok { url := firstPage } := except_eq_ok_of_toOption (by decide +kernel)
  exact made

/-- Of two statuses that are skipped, the one that may pass takes three requests, the other one takes
one. -/
theorem skipped_after_retries :
    (∃ s', ((listingStep [503, 404]).standing shop {} (.seed [])).move (steadyServer 503 "").recorded (0, []) =
      (.working, (listingStep [503, 404]).done {} (.seed []), s', List.replicate 3 { url := firstPage })) ∧
    ∃ s', ((listingStep [503, 404]).standing shop {} (.seed [])).move (steadyServer 404 "").recorded (0, []) =
      (.working, (listingStep [503, 404]).done {} (.seed []), s', [{ url := firstPage }]) :=
  ⟨(retried_then_skipped.2 (steadyServer 503 "") _ shop {} (.seed []) _ _ 503 (pageUrl_firstPage [503, 404])
      (build_firstPage [503, 404]) (steadyServer_keeps _ _ _) (by decide) 0 []).1 (by decide),
    (retried_then_skipped.2 (steadyServer 404 "") _ shop {} (.seed []) _ _ 404 (pageUrl_firstPage [503, 404])
      (build_firstPage [503, 404]) (steadyServer_keeps _ _ _) (by decide) 0 []).1 (by decide)⟩

/-- A success that is listed is no failure to skip: what cannot be read fails the step. -/
theorem listed_success_fails : 200 ∈ (listingStep [200]).skipStatuses ∧
    (listingStep [200]).pageUrl shop {} = .ok firstPage ∧
    (steadyServer 200 "nope").KeepsAnswering { url := firstPage } 200 ∧
    ((listingStep [200]).standing shop {} (.seed [])).move (steadyServer 200 "nope").recorded (0, []) =
      (.failed (.invalidResponse "http://shop/1?page=1" Reply.undecodable),
        (listingStep [200]).done {} (.seed []), 1, [{ url := firstPage }]) := by
  have served : (listingStep [200]).serve (steadyServer 200 "nope").recorded shop {} (0, []) =
      (.error (.invalidResponse "http://shop/1?page=1" Reply.undecodable), 1, [{ url := firstPage }]) := by
    decide +kernel
  refine ⟨by decide, pageUrl_firstPage [200], steadyServer_keeps _ _ _, QueryStep.move_failed ?_⟩
  rw [QueryStep.fetchPage_eq, served]

end Join
end MetaGraph

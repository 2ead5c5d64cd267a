/-
The join of a chain of steps as nested loops: for each record that comes in,
for each page of that record, each record of the page goes through all later
steps before the next page is asked for. The loops know nothing of queues
and of where a step stands between two pulls; what they share with a chain is
what is done with a single page.

A number of pages may come for a record without end, so the loops take a
budget of pages for a record; a run that is over budget is cut.
-/
import MetaGraph.Proofs.Join.Trace
import MetaGraph.Rest.Config

namespace MetaGraph

/-- The parameters of a step's requests: its own, as authentication leaves them. -/
def QueryStep.requestParams (q : QueryStep) : RequestParams :=
  match q.authenticate q.params with
  | .ok params => params
  | .error _ => q.params

namespace Join

variable {σ : Type}

/-- What a loop does with a record. -/
abbrev Body (σ : Type) := Record → σ → Trace σ

/-- A record that is handed out. -/
def emit : Body σ := fun r s => .record r s (.finished s)

/-- The body for each record in order. -/
def forEach (body : Body σ) : List Record → σ → Trace σ
  | [], s => .finished s
  | r :: rest, s => (body r s).andThen (forEach body rest)

/-- The pages of a record from a given one on, each asked for with retries, and the body
for each record of a page before the next page. The paging of the step tells whether there
is a next page, before anything is done with the records of this one, and a status that the
step skips ends the pages. -/
def pages (net : Network σ) (q : QueryStep) (record : Record) (body : Body σ) :
    Nat → PageState → σ → Trace σ
  | 0, _, _ => .cut
  | budget + 1, page, s =>
    match q.pageUrl record page with
    | .error e => .failed e s
    | .ok url =>
      match q.retry.run net.wait (q.requestParams.fetch net url) s with
      | (.error e, s) =>
        if e.hasStatus q.skipStatuses then .page (.finished s) else .failed e s
      | (.ok response, s) =>
        match q.rowsOf record url.text response with
        | .error e => .failed e s
        | .ok (records, rows) =>
          match q.paging.advance page response rows with
          | none => .overflow s
          | some (more, next) =>
            .page ((forEach body records s).andThen fun s =>
              if more then pages net q record body budget next s else .finished s)

/-- A record through all steps, from the first page of each. -/
def throughSteps (net : Network σ) (budget : Nat) : List QueryStep → Body σ
  | [] => emit
  | q :: later => fun record => pages net q record (throughSteps net budget later) budget {}

/-- The join of the seed records with all steps. -/
def nestedLoops (net : Network σ) (budget : Nat) (steps : List QueryStep) (seed : List Record) :
    σ → Trace σ :=
  forEach (throughSteps net budget steps) seed

/-! ## More pages -/

theorem forEach_mono {f g : Body σ} (h : ∀ r s, f r s ≤ g r s) :
    ∀ (records : List Record) (s : σ), forEach f records s ≤ forEach g records s
  | [], _ => Trace.le_refl _
  | r :: rest, s => Trace.andThen_mono (h r s) (forEach_mono h rest)

/-- A page as a step of a chain takes it: what `QueryStep.fetchPage` brings, looped over. -/
theorem pages_succ (net : Network σ) (q : QueryStep) (record : Record) (body : Body σ)
    (budget : Nat) (page : PageState) (s : σ) :
    pages net q record body (budget + 1) page s =
      match q.fetchPage q.requestParams net record page s with
      | (none, s) => .overflow s
      | (some (.error e), s) => .failed e s
      | (some (.ok p), s) => .page ((forEach body p.records s).andThen fun s =>
          if p.more then pages net q record body budget p.state s else .finished s) := by
  rw [pages, QueryStep.fetchPage]
  cases q.pageUrl record page with
  | error e => rfl
  | ok url =>
    simp only
    rcases q.retry.run net.wait (q.requestParams.fetch net url) s with ⟨e | response, s⟩
    · by_cases h : e.hasStatus q.skipStatuses = true
      · simp [h, QueryStep.Page.dropped, forEach]
      · simp [h]
    · simp only [QueryStep.readPage]
      rcases q.rowsOf record url.text response with e | ⟨records, rows⟩
      · rfl
      · simp only
        rcases q.paging.advance page response rows with _ | ⟨more, next⟩ <;> rfl

theorem pages_mono {net : Network σ} {q : QueryStep} {record : Record} {f g : Body σ}
    (h : ∀ r s, f r s ≤ g r s) {m n : Nat} (hmn : m ≤ n) (page : PageState) (s : σ) :
    pages net q record f m page s ≤ pages net q record g n page s := by
  induction m generalizing n page s with
  | zero => exact .cut _
  | succ m ih =>
    obtain ⟨n, rfl⟩ : ∃ n', n = n' + 1 := ⟨n - 1, by omega⟩
    have hmn : m ≤ n := by omega
    rw [pages_succ, pages_succ]
    rcases q.fetchPage q.requestParams net record page s with ⟨_ | e | p, s⟩
    · exact Trace.le_refl _
    · exact Trace.le_refl _
    · refine .page (Trace.andThen_mono (forEach_mono h p.records s) fun s => ?_)
      split
      · exact ih hmn p.state s
      · exact Trace.le_refl _

end Join

end MetaGraph

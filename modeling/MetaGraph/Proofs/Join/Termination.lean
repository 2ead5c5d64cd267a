/-
Chains whose steps have a single page for each record, or numbered pages up
to a total, come to an end over every server. A move that does not end the
run lowers what is left of a chain in the order of three things: the chain
that feeds the outermost step, the pages left up to the total that is known,
and the records that the last page brought. How much a page brings and how
large the total is, is up to the server, so no number of moves is enough for
all servers; but there is no endless descent.
-/
import MetaGraph.Proofs.Join.Configured
import MetaGraph.Proofs.Join.PageCount

namespace MetaGraph

/-! ## What is left of a step -/

section

variable {σ : Type}

/-- The totals that the server can report are so small that pages are counted without overflow; a
total that is not reported counts as zero. -/
def Network.Reports (net : Network σ) (path : JsonPath) (size : Nat) : Prop :=
  ∀ request s address response, (net.send request s).1.value address = .ok response →
    (Paging.reportedTotal? path response).getD 0 + size < 2 ^ 64

/-- The pages of a record come to an end: there is a single one, or they are numbered. -/
def QueryStep.Ends (net : Network σ) (q : QueryStep) : Prop :=
  q.paging = .single ∨ ∃ size path counted, q.paging = .numbered size path counted ∧ 1 ≤ size ∧
    net.Reports path size

end

namespace PageState

/-- The pages before this one do not reach the total, which is known. -/
def Due (q : QueryStep) (page : PageState) : Prop :=
  ∃ size path counted total, q.paging = .numbered size path counted ∧ total + size < 2 ^ 64 ∧
    page.total = some total ∧ (page.page - 1) * size < total

/-- No more pages than this are left. -/
def left (page : PageState) : Nat := page.total.getD 0 + 1 - page.page

end PageState

namespace QueryStep

variable {σ : Type} {net : Network σ} {q : QueryStep} {record : Record} {page : PageState} {s s' : σ}

/-- What is served for a page, the server has sent. -/
theorem sent_of_serve {address : String} {response : Json}
    (h : q.serve net record page s = (.ok (some (address, response)), s')) :
    ∃ request s₁ address, (net.send request s₁).1.value address = .ok response := by
  rw [serve] at h
  split at h
  · cases h
  split at h
  · split at h <;> cases h
  · rename_i hr
    cases h
    obtain ⟨s₁, fetched⟩ := RetryConfig.operation_of_run hr
    rw [RequestParams.fetch] at fetched
    split at fetched
    · cases fetched
    · exact ⟨_, _, _, congrArg Prod.fst fetched⟩

/-- What a server can tell of totals holds of a page that is served. -/
theorem reports_of_serve {path : JsonPath} {size : Nat} (reports : net.Reports path size) {address : String}
    {response : Json} (h : q.serve net record page s = (.ok (some (address, response)), s')) :
    (Paging.reportedTotal? path response).getD 0 + size < 2 ^ 64 := by
  obtain ⟨request, s₁, address, answered⟩ := sent_of_serve h
  exact reports request s₁ address response answered

/-- The items up to a page that is due can be counted. -/
theorem counts_of_due (ends : q.Ends net) (known : page = {} ∨ page.Due q) :
    q.fetchPage q.requestParams net record page s ≠ (none, s') := by
  obtain single | ⟨size, path, counted, numbered, -, reports⟩ := ends
  · intro h
    obtain ⟨_, _, _, -, beyond⟩ := fetchPage_none h
    rw [single] at beyond
    cases beyond
  refine fetchPage_counts numbered fun address response served => ?_
  rcases known with rfl | ⟨size', path', counted', total', numbered', small, -, inside⟩
  · have told := reports_of_serve reports served
    dsimp only
    omega
  · rw [numbered] at numbered'
    cases numbered'
    rw [Nat.sub_mul] at inside
    omega

/-- A page that follows is due, and there are fewer pages left. -/
theorem due_of_more (ends : q.Ends net) (known : page = {} ∨ page.Due q) {p : Page}
    (h : q.fetchPage q.requestParams net record page s = (some (.ok p), s')) (more : p.more = true) :
    p.state.Due q ∧ (page.Due q → p.state.left < page.left) := by
  obtain single | ⟨size, path, counted, numbered, hs, reports⟩ := ends
  · obtain rfl | ⟨address, response, rows, -, follows⟩ := fetchPage_ok h
    · cases more
    · rw [single, more] at follows
      cases follows
  obtain ⟨last, -⟩ | ⟨address, response, total, served, hk, before, -, next⟩ := fetchPage_numbered numbered h
  · rw [last] at more
    cases more
  -- The total is the one that the page was due for, or the one that the first page tells.
  have small : total + size < 2 ^ 64 := by
    rcases known with rfl | ⟨size', path', counted', total', numbered', small, hk', -⟩
    · have told := reports_of_serve reports served
      rwa [show Paging.reportedTotal? path response = some total from hk] at told
    · rw [numbered] at numbered'
      cases numbered'
      rw [hk'] at hk
      cases hk
      exact small
  rw [next]
  refine ⟨⟨size, path, counted, total, numbered, small, rfl, before⟩, ?_⟩
  rintro ⟨_, _, _, total', -, -, hk', -⟩
  have same : total' = total := by
    rw [hk'] at hk
    exact Option.some.inj hk
  have below : page.page ≤ page.page * size := Nat.le_mul_of_pos_right _ hs
  simp only [PageState.left, hk', Option.getD_some, same]
  omega

end QueryStep

/-! ## Moves that go on -/

/-- The run goes on after the move. -/
def Move.GoesOn : Move → Prop
  | .record _ | .working => True
  | .finished | .failed _ | .overflow => False

namespace StepState

/-- Another page is due for the record that the step stands at. -/
def Inside (q : QueryStep) (state : StepState) : Prop := state.current.isSome → state.page.Due q

/-- What is left of the record that the step stands at: pages, and records of the last page. -/
def left (state : StepState) : Nat × Nat :=
  (if state.current.isSome then state.page.left + 1 else 0, state.pending.length)

end StepState

namespace Chain

variable {σ : Type} {net : Network σ} {q : QueryStep} {state : StepState} {inner : Chain} {s : σ}

/-- What a chain can become in a move that goes on, over all states of the network. -/
def Next (net : Network σ) (c' c : Chain) : Prop :=
  ∃ (s s' : σ) (m : Move), c.move net s = (m, c', s') ∧ m.GoesOn

/-- Less is left of a record: fewer pages, or no more pages and fewer records. -/
def Lower (st state : StepState) : Prop := Prod.Lex (· < ·) (· < ·) st.left state.left

theorem takePage_lower (ends : q.Ends net) (state : StepState) (hp : state.params = q.requestParams)
    (known : state.page = {} ∨ state.page.Due q) (inner : Chain) (record : Record) (s : σ) :
    ∃ m st s', takePage net q state inner record s = (m, .step q st inner, s') ∧ st.Inside q ∧
      (m.GoesOn → m = .working ∧ (state.page.Due q → st.left.1 < state.page.left + 1)) := by
  rw [takePage, hp]
  rcases hf : q.fetchPage q.requestParams net record state.page s with ⟨_ | e | page, s'⟩
  · exact ⟨_, _, s', rfl, fun more => Bool.noConfusion more, False.elim⟩
  · exact ⟨_, _, s', rfl, fun more => Bool.noConfusion more, False.elim⟩
  · refine ⟨_, _, s', rfl, ?_, fun _ => ⟨rfl, fun due => ?_⟩⟩
    · intro more
      cases hm : page.more with
      | false => simp [hm] at more
      | true => exact (QueryStep.due_of_more ends known hf hm).1
    · cases hm : page.more with
      | false => exact Nat.succ_pos _
      | true => exact Nat.succ_lt_succ ((QueryStep.due_of_more ends known hf hm).2 due)

/-- All that a move of a step can do: it goes down in its record, or the chain below it moves. -/
def GoesDown (net : Network σ) (q : QueryStep) (state : StepState) (inner : Chain) (s : σ)
    (moved : Move × Chain × σ) : Prop :=
  ∃ m st inner' s', moved = (m, .step q st inner', s') ∧ st.Inside q ∧
    (inner' = inner ∨ ∃ m₁ s₁, inner.move net s = (m₁, inner', s₁)) ∧
    (m.GoesOn → (inner' = inner ∧ Lower st state) ∨ Next net inner' inner)

theorem moveStep_goesDown (ends : q.Ends net) (state : StepState) (hp : state.params = q.requestParams)
    (inside : state.Inside q) (inner : Chain) (s : σ) :
    GoesDown net q state inner s (moveStep net (inner.move net) q state inner s) := by
  rw [moveStep]
  cases hq : state.pending with
  | cons r rest =>
    refine ⟨_, _, inner, s, rfl, inside, .inl rfl, fun _ => .inl ⟨rfl, ?_⟩⟩
    simp only [Lower, StepState.left, hq]
    exact .right _ (Nat.lt_succ_self _)
  | nil =>
    cases hc : state.current with
    | some record =>
      have due : state.page.Due q := inside (by rw [hc]; rfl)
      obtain ⟨m, st, s', hm, after, lower⟩ :=
        takePage_lower ends { state with current := none, pending := [] } hp (.inr due) inner record s
      refine ⟨m, st, inner, s', hm, after, .inl rfl, fun on => .inl ⟨rfl, ?_⟩⟩
      have fewer := (lower on).2 due
      simp only [Lower, StepState.left, hc, Option.isSome_some, if_true] at fewer ⊢
      exact .left _ _ fewer
    | none =>
      rcases hi : inner.move net s with ⟨m₁, inner₁, s₁⟩
      have below : inner₁ = inner ∨ ∃ m s', inner.move net s = (m, inner₁, s') := .inr ⟨_, _, hi⟩
      cases m₁ with
      | record record =>
        obtain ⟨m, st, s', hm, after, -⟩ :=
          takePage_lower ends { state with current := none, pending := [], page := {} } hp (.inl rfl) inner₁
            record s₁
        exact ⟨m, st, inner₁, s', hm, after, below, fun _ => .inr ⟨s, s₁, _, hi, trivial⟩⟩
      | working => exact ⟨_, _, inner₁, s₁, rfl, inside, below, fun _ => .inr ⟨s, s₁, _, hi, trivial⟩⟩
      | finished | failed | overflow => exact ⟨_, _, inner₁, s₁, rfl, inside, below, fun on => on.elim⟩

theorem move_goesDown (ends : q.Ends net) (ready : (step q state inner).Ready) (inside : state.Inside q)
    (s : σ) : GoesDown net q state inner s ((step q state inner).move net s) := by
  obtain ⟨auth, params, -⟩ := ready
  rw [move]
  split
  · rename_i done
    exact moveStep_goesDown ends state (by simpa [done] using params) inside inner s
  · rename_i new
    have params : state.params = q.params := by simpa [new] using params
    rw [params, auth]
    exact moveStep_goesDown ends { state with params := q.requestParams, authenticated := true } rfl inside
      inner s

/-! ## No endless descent -/

/-- All steps of a chain end their pages, and stand inside them. -/
def Bounded (net : Network σ) : Chain → Prop
  | .seed _ => True
  | .step q state inner => q.Ends net ∧ state.Inside q ∧ inner.Bounded net

theorem bounded_move {c : Chain} (ready : c.Ready) (h : c.Bounded net) (s : σ) :
    (c.move net s).2.1.Bounded net := by
  induction c generalizing s with
  | seed records => cases records <;> trivial
  | step q state inner ih =>
    obtain ⟨ends, inside, h⟩ := h
    obtain ⟨m, st, inner', s', hm, after, below, -⟩ := move_goesDown ends ready inside s
    rw [hm]
    refine ⟨ends, after, ?_⟩
    obtain rfl | ⟨m₁, s₁, hi⟩ := below
    · exact h
    · have moved := ih ready.2.2 h s
      rwa [hi] at moved

theorem takePage_counts (ends : q.Ends net) (state : StepState) (hp : state.params = q.requestParams)
    (known : state.page = {} ∨ state.page.Due q) (inner : Chain) (record : Record) (s : σ) :
    (takePage net q state inner record s).1 ≠ .overflow := by
  rw [takePage, hp]
  rcases hf : q.fetchPage q.requestParams net record state.page s with ⟨_ | e | page, s'⟩
  · exact absurd hf (QueryStep.counts_of_due ends known)
  · exact Move.noConfusion
  · exact Move.noConfusion

/-- Whatever a chain counts as it moves fits into 64 bits. -/
theorem move_counts {c : Chain} (ready : c.Ready) (h : c.Bounded net) (s : σ) :
    (c.move net s).1 ≠ .overflow := by
  induction c generalizing s with
  | seed records => cases records <;> exact Move.noConfusion
  | step q state inner ih =>
    obtain ⟨auth, params, ready⟩ := ready
    obtain ⟨ends, inside, h⟩ := h
    have authenticated (state : StepState) (hp : state.params = q.requestParams) (inside : state.Inside q) :
        (moveStep net (inner.move net) q state inner s).1 ≠ .overflow := by
      rw [moveStep]
      split
      · exact Move.noConfusion
      split
      · rename_i record hc
        have due : state.page.Due q := inside (by rw [hc]; rfl)
        exact takePage_counts ends { state with current := none } hp (.inr due) inner record s
      · have below := ih ready h s
        rcases hi : inner.move net s with ⟨m, inner', s'⟩
        rw [hi] at below
        cases m with
        | record record => exact takePage_counts ends { state with page := {} } hp (.inl rfl) inner' record s'
        | finished | failed | overflow | working => exact below
    rw [move]
    split
    · rename_i done
      exact authenticated state (by simpa [done] using params) inside
    · rename_i new
      have params : state.params = q.params := by simpa [new] using params
      rw [params, auth]
      exact authenticated { state with params := q.requestParams, authenticated := true } rfl inside

/-- A step over a chain without endless descents has none: the chain below it comes first, then
what is left of its record. -/
theorem acc_step (ends : q.Ends net) (below : Acc (Next net) inner) :
    ∀ state, StepState.Inside q state → (step q state inner).Ready → Acc (Next net) (step q state inner) := by
  induction below with
  | intro inner _ outer =>
    have lower : WellFounded Lower := InvImage.wf StepState.left (Prod.lex Nat.lt_wfRel Nat.lt_wfRel).wf
    intro state
    induction state using lower.induction with
    | _ state ih =>
      intro inside ready
      refine ⟨_, fun c' ⟨s, s₁, m₁, hm, on⟩ => ?_⟩
      have ready' := ready_move net ready s
      obtain ⟨m, st, inner', s', moved, after, -, descends⟩ := move_goesDown ends ready inside s
      rw [moved] at hm ready'
      cases hm
      obtain ⟨rfl, less⟩ | next := descends on
      · exact ih st less after ready'
      · exact outer inner' next st after ready'

theorem acc_of_bounded {c : Chain} (ready : c.Ready) (h : c.Bounded net) : Acc (Next net) c := by
  induction c with
  | seed records =>
    induction records with
    | nil => exact ⟨_, fun c' ⟨s, s', m, hm, on⟩ => by cases hm; exact on.elim⟩
    | cons r rest ih => exact ⟨_, fun c' ⟨s, s', m, hm, _⟩ => by cases hm; exact ih trivial trivial⟩
  | step q state inner ih => exact acc_step h.1 (ih ready.2.2 h.2.2) state h.2.1 ready

/-! ## Calls that end -/

/-- Where a chain stands after some calls, whatever they were answered. -/
inductive Called (net : Network σ) (c : Chain) (s : σ) : Chain → σ → Prop
  | none : Called net c s c s
  | call {c' c'' : Chain} {s' s'' : σ} {fuel : Nat} {m : Move} : Called net c s c' s' →
    c'.pull net fuel s' = (m, c'', s'') → m ≠ .working → Called net c s c'' s''

/-- What moves keep, calls keep. -/
theorem Called.keeps {P : Chain → Prop} (move : ∀ c s, P c → P (c.move net s).2.1) {c c' : Chain} {s s' : σ}
    (h : Called net c s c' s') (hc : P c) : P c' := by
  have pulled (fuel : Nat) (c : Chain) (s : σ) (hc : P c) : P (c.pull net fuel s).2.1 := by
    induction fuel generalizing c s with
    | zero => exact hc
    | succ fuel ih =>
      have next := move c s hc
      rw [pull]
      split
      · rename_i hm
        rw [hm] at next
        exact ih _ _ next
      · exact next
  induction h with
  | none => exact hc
  | @call c₁ _ s₁ _ fuel _ _ hp _ ih =>
    have after := pulled fuel c₁ s₁ ih
    rwa [hp] at after

/-- A call is answered after some moves. -/
theorem pull_of_acc {c : Chain} (h : Acc (Next net) c) (ready : c.Ready) (bounded : c.Bounded net) (s : σ) :
    ∃ moves m c' s', c.pull net moves s = (m, c', s') ∧ m ≠ .working ∧ m ≠ .overflow := by
  induction h generalizing s with
  | intro c _ ih =>
    have ready' := ready_move net ready s
    have bounded' := bounded_move ready bounded s
    have counts := move_counts ready bounded s
    rcases hm : c.move net s with ⟨m, c', s'⟩
    rw [hm] at ready' bounded' counts
    by_cases working : m = .working
    · subst working
      obtain ⟨moves, m, c₂, s₂, hp, answer⟩ := ih c' ⟨s, s', _, hm, trivial⟩ ready' bounded' s'
      exact ⟨moves + 1, m, c₂, s₂, by rw [pull, hm]; exact hp, answer⟩
    · exact ⟨1, m, c', s', pull_one hm, working, counts⟩

/-- After some calls the chain has no records left, or fails. -/
theorem calls_of_acc {c : Chain} (h : Acc (Next net) c) (ready : c.Ready) (bounded : c.Bounded net) (s : σ) :
    ∃ answers closing s', Calls net c s (answers ++ [(closing, s')]) ∧
      (closing = .finished ∨ ∃ e, closing = .failed e) := by
  induction h generalizing s with
  | intro c _ ih =>
    have ready' := ready_move net ready s
    have bounded' := bounded_move ready bounded s
    have counts := move_counts ready bounded s
    rcases hm : c.move net s with ⟨m, c', s'⟩
    rw [hm] at ready' bounded' counts
    cases m with
    | working =>
      obtain ⟨answers, closing, s₂, calls, ends⟩ := ih c' ⟨s, s', _, hm, trivial⟩ ready' bounded' s'
      exact ⟨answers, closing, s₂, calls.working hm, ends⟩
    | record r =>
      obtain ⟨answers, closing, s₂, calls, ends⟩ := ih c' ⟨s, s', _, hm, trivial⟩ ready' bounded' s'
      exact ⟨(.record r, s') :: answers, closing, s₂, .record (pull_one hm) calls, ends⟩
    | finished => exact ⟨[], _, s', .finished (pull_one hm), .inl rfl⟩
    | failed e => exact ⟨[], _, s', .failed (pull_one hm), .inr ⟨e, rfl⟩⟩
    | overflow => exact absurd rfl counts

end Chain

/-! ## Requests -/

section Requests

variable {σ : Type} (net : Network σ)

theorem RequestParams.fetch_sent (p : RequestParams) (url : Url) (s : σ × List Request) :
    (p.fetch net.recorded url s).2.2.length ≤ s.2.length + 1 := by
  rw [fetch]
  split
  · exact Nat.le_succ _
  · simp [Network.recorded]

/-- As many requests as there are attempts are sent at most, as each sends one at most. -/
theorem QueryStep.fetchPage_sent (q : QueryStep) (params : RequestParams) (record : Record) (page : PageState)
    (s : σ × List Request) :
    (q.fetchPage params net.recorded record page s).2.2.length ≤ s.2.length + q.retry.budget := by
  rw [fetchPage]
  split
  · exact Nat.le_add_right ..
  · rename_i url _
    let Within (n : Nat) (s' : σ × List Request) := s'.2.length ≤ s.2.length + n
    have waited (ms n : Nat) (s' : σ × List Request) (within : Within n s') :
        Within n (net.recorded.wait ms s') := within
    have fetched (n : Nat) (s' : σ × List Request) (within : Within n s') :
        Within (n + 1) (params.fetch net.recorded url s').2 :=
      Nat.le_trans (params.fetch_sent net url s') (Nat.succ_le_succ within)
    obtain ⟨n, attempts, sent⟩ := RetryConfig.run_keeps waited fetched q.retry (Nat.le_refl _)
    have budget : (q.retry.run net.recorded.wait (params.fetch net.recorded url) s).2.2.length ≤
        s.2.length + q.retry.budget := Nat.le_trans sent (Nat.add_le_add_left attempts _)
    split <;> rename_i h <;> rw [h] at budget <;> exact budget

namespace Chain

/-- How many attempts a chain makes in a single move at most. -/
def attempts : Chain → Nat
  | .seed _ => 0
  | .step q _ inner => q.retry.budget + inner.attempts

theorem takePage_sent (q : QueryStep) (state : StepState) (inner : Chain) (record : Record)
    (s : σ × List Request) :
    (takePage net.recorded q state inner record s).2.1.attempts = (Chain.step q state inner).attempts ∧
      (takePage net.recorded q state inner record s).2.2.2.length ≤ s.2.length + q.retry.budget := by
  have sent := q.fetchPage_sent net state.params record state.page s
  rw [takePage]
  split <;> rename_i h <;> rw [h] at sent <;> exact ⟨rfl, sent⟩

/-- A move keeps how many attempts there can be, and sends as many requests at most. -/
theorem move_sent (c : Chain) (s : σ × List Request) :
    (c.move net.recorded s).2.1.attempts = c.attempts ∧
      (c.move net.recorded s).2.2.2.length ≤ s.2.length + c.attempts := by
  induction c generalizing s with
  | seed records => cases records <;> exact ⟨rfl, Nat.le_refl _⟩
  | step q state inner ih =>
    have authenticated (state : StepState) :
        (moveStep net.recorded (inner.move net.recorded) q state inner s).2.1.attempts =
            q.retry.budget + inner.attempts ∧
          (moveStep net.recorded (inner.move net.recorded) q state inner s).2.2.2.length ≤
            s.2.length + (q.retry.budget + inner.attempts) := by
      obtain ⟨same, below⟩ := ih s
      rw [moveStep]
      split
      · exact ⟨rfl, Nat.le_add_right ..⟩
      split
      · rename_i record _
        obtain ⟨kept, sent⟩ := takePage_sent net q { state with current := none } inner record s
        exact ⟨kept, by omega⟩
      · rcases hi : inner.move net.recorded s with ⟨m, inner', s'⟩
        rw [hi] at same below
        dsimp only at same below
        cases m with
        | record record =>
          obtain ⟨kept, sent⟩ := takePage_sent net q { state with page := {} } inner' record s'
          exact ⟨by rw [← same]; exact kept, by dsimp only; omega⟩
        | finished | failed | overflow | working => exact ⟨congrArg _ same, by dsimp only; omega⟩
    rw [move]
    split
    · exact authenticated state
    · split
      · exact ⟨rfl, Nat.le_add_right ..⟩
      · exact authenticated _

/-- The requests of a call. -/
theorem pull_sent (moves : Nat) (c : Chain) (s : σ × List Request) :
    (c.pull net.recorded moves s).2.2.2.length ≤ s.2.length + moves * c.attempts := by
  induction moves generalizing c s with
  | zero => simp [pull]
  | succ moves ih =>
    obtain ⟨same, first⟩ := move_sent net c s
    rw [pull, Nat.succ_mul]
    split
    · rename_i c' s' hm
      rw [hm] at same first
      have rest := ih c' s'
      rw [same] at rest
      dsimp only at first
      omega
    · exact Nat.le_trans first (by omega)

end Chain

end Requests

/-! ## Built chains -/

namespace QueryConfig

theorem build_paging {c : QueryConfig} {params : RequestParams} {retry : RetryConfig} {q : QueryStep}
    (h : c.build params retry = .ok q) : c.paging.build = .ok q.paging ∧ q.retry = retry := by
  obtain ⟨paging, path, built, -, -, rfl⟩ := build_eq_ok h
  exact ⟨built, rfl⟩

/-- A step ends its pages if it is configured to have a single one or numbered ones. -/
theorem ends_of_build {σ : Type} {net : Network σ} {c : QueryConfig} {params : RequestParams}
    {retry : RetryConfig} {q : QueryStep} (h : c.build params retry = .ok q)
    (paged : c.paging = .single ∨ ∃ size total counted, c.paging = .numbered size total counted)
    (reports : ∀ size total counted path, c.paging = .numbered size total counted →
      JsonPath.parse total = .ok path → net.Reports path (Paging.pageSize size)) : q.Ends net := by
  obtain ⟨built, -⟩ := build_paging h
  obtain single | ⟨size, total, counted, numbered⟩ := paged
  · rw [single] at built
    exact .inl (Except.ok.inj built).symm
  · rw [numbered] at built
    obtain ⟨path, hp, built⟩ := except_bind_ok.1 built
    obtain ⟨counted', -, built⟩ := except_bind_ok.1 built
    have paging : q.paging = .numbered (Paging.pageSize size) path counted' := (Except.ok.inj built).symm
    exact .inr ⟨_, path, _, paging, Nat.le_max_left .., reports size total counted path numbered hp⟩

end QueryConfig

namespace Chain

theorem bounded_addSteps {σ : Type} {net : Network σ} : ∀ (steps : List QueryStep) {inner : Chain},
    inner.Bounded net → (∀ q ∈ steps, q.Ends net) → (inner.addSteps steps).Bounded net
  | [], _, h, _ => h
  | q :: later, inner, h, ends =>
    have first : (inner.addStep q).Bounded net := ⟨ends q List.mem_cons_self, nofun, h⟩
    bounded_addSteps later first fun p hp => ends p (List.mem_cons_of_mem q hp)

theorem attempts_addSteps : ∀ (steps : List QueryStep) (inner : Chain),
    (inner.addSteps steps).attempts = (steps.map (·.retry.budget)).sum + inner.attempts
  | [], _ => (Nat.zero_add _).symm
  | q :: later, inner => by
    have rest := attempts_addSteps later (inner.addStep q)
    rw [List.map_cons, List.sum_cons]
    simp only [addSteps, List.foldl_cons, addStep, attempts] at rest ⊢
    omega

end Chain

/-- **Pulling ends.** A chain is built whose steps have a single page for each record or numbered
pages, and the totals that the server can report are not too large. Then every call is answered,
also after earlier answers that ended a run, without an overflow, and sends no more requests than
all steps have attempts, in each move. And after some calls the chain has no records left, or
fails. -/
theorem pulling_ends {c : ChainConfig} {chain : Chain} (h : c.build = .ok chain)
    (paged : ∀ step ∈ c.steps,
      step.paging = .single ∨ ∃ size total counted, step.paging = .numbered size total counted)
    {σ : Type} (server : Network σ)
    (reports : ∀ step ∈ c.steps, ∀ size total counted path, step.paging = .numbered size total counted →
      JsonPath.parse total = .ok path → server.Reports path (Paging.pageSize size)) (s : σ) :
    (∀ c' s', Chain.Called server.recorded chain (s, []) c' s' →
      ∃ moves m c'' s'', c'.pull server.recorded moves s' = (m, c'', s'') ∧ m ≠ .working ∧ m ≠ .overflow ∧
        s''.2.length ≤ s'.2.length + moves * (c.steps.length * c.retry.budget)) ∧
      ∃ answers closing s', chain.Calls server.recorded (s, []) (answers ++ [(closing, s')]) ∧
        (closing = .finished ∨ ∃ e, closing = .failed e) := by
  obtain ⟨steps, hs, rfl⟩ := ChainConfig.build_eq h
  have ends : ∀ q ∈ steps, q.Ends server.recorded := by
    intro q hq
    obtain ⟨step, hm, built⟩ := mem_mapM_ok hs q hq
    refine QueryConfig.ends_of_build built (paged step hm) fun size total counted path hp parsed => ?_
    exact fun request s => reports step hm size total counted path hp parsed request s.1
  have ready : (Chain.addSteps (.seed c.seedRecords) steps).Ready :=
    Chain.ready_addSteps steps trivial fun q hq => (ChainConfig.mem_querySteps hs hq).1
  have bounded : (Chain.addSteps (.seed c.seedRecords) steps).Bounded server.recorded :=
    Chain.bounded_addSteps steps trivial ends
  have attempts : (Chain.addSteps (.seed c.seedRecords) steps).attempts =
      c.steps.length * c.retry.budget := by
    have same : steps.map (·.retry.budget) = c.steps.map fun _ => c.retry.budget :=
      map_mapM_ok (fun (step : QueryConfig) _ (built : step.build c.params c.retry = _) =>
        congrArg RetryConfig.budget (QueryConfig.build_paging built).2) hs
    rw [Chain.attempts_addSteps, same, List.map_const', List.sum_replicate_nat]
    rfl
  have ended := Chain.calls_of_acc (Chain.acc_of_bounded ready bounded) ready bounded (s, [])
  refine ⟨fun c' s' called => ?_, ended⟩
  -- What a call relies on, all calls before it keep.
  let Kept (c' : Chain) : Prop :=
    c'.Ready ∧ c'.Bounded server.recorded ∧ c'.attempts = c.steps.length * c.retry.budget
  have moves (c₁ : Chain) (s₁ : σ × List Request) : Kept c₁ → Kept (c₁.move server.recorded s₁).2.1 := by
    rintro ⟨ready, bounded, same⟩
    exact ⟨Chain.ready_move _ ready s₁, Chain.bounded_move ready bounded s₁,
      (Chain.move_sent server c₁ s₁).1.trans same⟩
  obtain ⟨ready', bounded', same⟩ : Kept c' := called.keeps moves ⟨ready, bounded, attempts⟩
  obtain ⟨moves, m, c'', s'', pulled, answer, counts⟩ :=
    Chain.pull_of_acc (Chain.acc_of_bounded ready' bounded') ready' bounded' s'
  have sent := Chain.pull_sent server moves c' s'
  rw [pulled, same] at sent
  exact ⟨moves, m, c'', s'', pulled, answer, counts, sent⟩

/-! ## A server without an end -/

def endlessPage : Reply := .answer 200 (Utf8.encode "\x7b\"items\":[\"pen\"],\"total\":5\x7d")

/-- A server that has an item on every page there could be. -/
def endlessServer : Network Nat where
  send _ s := (endlessPage, s + 1)
  wait _ s := s

/-- The items of two shops, two to a page, and what each item is made of. -/
def itemParts : ChainConfig where
  seed := [[("shop", .text "1")], [("shop", .text "2")]]
  steps := [
    { url := "http://shop/{shop}", jsonPath := "items[*]", fieldNames := ["item"],
      paging := .numbered 2 "total" none },
    { url := "http://shop/parts/{item}", jsonPath := "items[*]", fieldNames := ["part"] }]

theorem build_itemParts : ∃ chain, itemParts.build = .ok chain :=
  exists_eq_ok_of_isOk (by decide +kernel)

set_option maxRecDepth 20000 in
theorem parse_total : JsonPath.parse "total" = .ok ⟨"total", [.of true [.of false [.name "total"]]]⟩ := by
  rfl

/-- Every page has an item, but the total is five. -/
theorem pulling_ends_itemParts : ∃ chain, itemParts.build = .ok chain ∧
    (∀ c' s', Chain.Called endlessServer.recorded chain (0, []) c' s' →
      ∃ moves m c'' s'', c'.pull endlessServer.recorded moves s' = (m, c'', s'') ∧ m ≠ .working ∧ m ≠ .overflow ∧
        s''.2.length ≤ s'.2.length + moves * 10) ∧
      ∃ answers closing s', chain.Calls endlessServer.recorded (0, []) (answers ++ [(closing, s')]) ∧
        (closing = .finished ∨ ∃ e, closing = .failed e) := by
  obtain ⟨chain, built⟩ := build_itemParts
  refine ⟨chain, built, pulling_ends built ?_ endlessServer ?_ 0⟩
  · intro step hm
    simp only [itemParts, List.mem_cons, List.not_mem_nil, or_false] at hm
    rcases hm with rfl | rfl
    · exact .inr ⟨_, _, _, rfl⟩
    · exact .inl rfl
  · intro step hm size total counted path numbered parsed
    simp only [itemParts, List.mem_cons, List.not_mem_nil, or_false] at hm
    rcases hm with rfl | rfl
    · cases numbered
      rw [parse_total] at parsed
      cases parsed
      intro request s address response answered
      have page : (endlessPage.value "").toOption =
          some (.object [("items", .array [.text "pen"]), ("total", .int 5)]) := by
        decide +kernel
      have same : endlessPage.value address = .ok response := answered
      rw [Reply.value_of_toOption page] at same
      cases same
      have told : Paging.reportedTotal? ⟨"total", [.of true [.of false [.name "total"]]]⟩ (.object
          [("items", .array [.text "pen"]), ("total", .int 5)]) = some 5 := by
        decide +kernel
      rw [told]
      decide
    · cases numbered

end MetaGraph

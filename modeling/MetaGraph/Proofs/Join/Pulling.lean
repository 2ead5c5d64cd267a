/-
A chain that is pulled does what its nested loops do. Between two moves a
chain holds what is left of its loops: the records of a step's queue, the
pages of the record the step stands at, and what the chain below it still
brings. `Chain.remaining` reads this off a chain, and one move takes exactly
the next act from it.
-/
import MetaGraph.Proofs.Join.NestedLoop

namespace MetaGraph

open Join

variable {σ : Type} {net : Network σ}

/-- What is left of the loops of a step for the record it stands at: its queue, then the
pages of the record that are still due. -/
def StepState.remaining (net : Network σ) (q : QueryStep) (body : Body σ) (budget : Nat)
    (state : StepState) (s : σ) : Trace σ :=
  (forEach body state.pending s).andThen fun s =>
    match state.current with
    | some record => pages net q record body budget state.page s
    | none => .finished s

theorem StepState.remaining_mono {q : QueryStep} {f g : Body σ} (h : ∀ r s, f r s ≤ g r s) {m n : Nat}
    (hmn : m ≤ n) (state : StepState) (s : σ) :
    state.remaining net q f m s ≤ state.remaining net q g n s := by
  refine Trace.andThen_mono (forEach_mono h _ s) fun s => ?_
  split
  · exact pages_mono h hmn _ s
  · exact Trace.le_refl _

namespace Chain

/-- What is left of the loops of a chain, the body standing for all that is done with
its records. -/
def remaining (net : Network σ) (budget : Nat) : Chain → Body σ → σ → Trace σ
  | .seed records, body, s => forEach body records s
  | .step q state inner, body, s =>
    (state.remaining net q body budget s).andThen
      (inner.remaining net budget fun record => pages net q record body budget {})

/-- Every step can be authenticated, and stands before that or after it. -/
def Ready : Chain → Prop
  | .seed _ => True
  | .step q state inner =>
    q.authenticate q.params = .ok q.requestParams ∧
      state.params = (if state.authenticated then q.requestParams else q.params) ∧ inner.Ready

theorem remaining_mono (net : Network σ) {f g : Body σ} (h : ∀ r s, f r s ≤ g r s) {m n : Nat}
    (hmn : m ≤ n) (c : Chain) (s : σ) : c.remaining net m f s ≤ c.remaining net n g s := by
  induction c generalizing f g s with
  | seed records => exact forEach_mono h records s
  | step q state inner ih =>
    exact Trace.andThen_mono (state.remaining_mono h hmn s) fun s =>
      ih (fun record s => pages_mono h hmn {} s) s

/-! ## One move -/

/-- How what was left before a move goes on: with the record that the move hands out or with
a page, and then with what is left after it. A page takes one from the budget of its record,
so a budget larger by one always suffices. -/
def GoesOn (net : Network σ) (before : Nat → Body σ → Trace σ) : Move × Chain × σ → Prop
  | (.record r, c, s) => ∀ b body, before b body = (body r s).andThen (c.remaining net b body)
  | (.working, c, s) => ∀ b body, before b body ≤ .page (c.remaining net b body s) ∧
      .page (c.remaining net b body s) ≤ before (b + 1) body
  | (.finished, _, s) => ∀ b body, before b body = .finished s
  | (.failed e, _, s) => ∀ b body, before b body ≤ .failed e s ∧ before (b + 1) body = .failed e s
  | (.overflow, _, s) => ∀ b body, before b body ≤ .overflow s ∧ before (b + 1) body = .overflow s

/-- The pages of a record from the one a step stands at, and then what the chain below brings. -/
theorem goesOn_takePage (net : Network σ) {q : QueryStep} (state : StepState) (hp : state.params = q.requestParams)
    (inner : Chain) (record : Record) (s : σ) :
    GoesOn net (fun b body => (pages net q record body b state.page s).andThen
      (inner.remaining net b fun record => pages net q record body b {}))
      (takePage net q state inner record s) := by
  rw [takePage, hp]
  -- A run that ends with this page ends alike for every budget that reaches the page.
  have ends (t : Trace σ) (stays : ∀ next, t.andThen next = t) (b : Nat) (body : Body σ)
      (succ : ∀ b, pages net q record body (b + 1) state.page s = t) :
      (pages net q record body b state.page s).andThen
          (inner.remaining net b fun record => pages net q record body b {}) ≤ t ∧
        (pages net q record body (b + 1) state.page s).andThen
          (inner.remaining net (b + 1) fun record => pages net q record body (b + 1) {}) = t := by
    refine ⟨?_, by rw [succ, stays]⟩
    cases b with
    | zero => exact .cut _
    | succ b => rw [succ, stays]; exact Trace.le_refl _
  rcases hf : q.fetchPage q.requestParams net record state.page s with ⟨_ | e | page, s'⟩
  · exact fun b body => ends (.overflow s') (fun _ => rfl) b body fun b => by rw [pages_succ, hf]
  · exact fun b body => ends (.failed e s') (fun _ => rfl) b body fun b => by rw [pages_succ, hf]
  · intro b body
    let after : StepState :=
      { state with
        current := if page.more then some record else none
        pending := page.records
        page := page.state }
    have succ (b : Nat) : pages net q record body (b + 1) state.page s =
        .page (after.remaining net q body b s') := by
      rw [pages_succ, hf]
      simp only [StepState.remaining, after]
      cases page.more <;> rfl
    have same (r : Record) (s : σ) : body r s ≤ body r s := Trace.le_refl _
    refine ⟨?_, ?_⟩
    · cases b with
      | zero => exact .cut _
      | succ b =>
        simp only [succ]
        exact .page (Trace.andThen_mono (after.remaining_mono same b.le_succ s') fun _ =>
          Trace.le_refl _)
    · simp only [succ]
      exact .page (Trace.andThen_mono (Trace.le_refl _) fun s =>
        inner.remaining_mono net (fun record s => pages_mono same b.le_succ {} s) b.le_succ s)

theorem goesOn_moveStep {q : QueryStep} (state : StepState) (hp : state.params = q.requestParams)
    {inner : Chain} {s : σ}
    (hi : GoesOn net (fun b body => inner.remaining net b body s) (inner.move net s)) :
    GoesOn net (fun b body => (Chain.step q state inner).remaining net b body s)
      (moveStep net (inner.move net) q state inner s) := by
  rw [moveStep]
  cases hq : state.pending with
  | cons r rest =>
    intro b body
    simp only [remaining, StepState.remaining, hq, forEach, Trace.andThen_assoc]
  | nil =>
    cases hc : state.current with
    | some record =>
      have h := goesOn_takePage net { state with current := none } hp inner record s
      simpa only [remaining, StepState.remaining, hq, hc, forEach, Trace.finished_andThen] using h
    | none =>
      have idle (b : Nat) (body : Body σ) (inner : Chain) (s : σ) :
          (Chain.step q state inner).remaining net b body s =
            inner.remaining net b (fun record => pages net q record body b {}) s := by
        simp only [remaining, StepState.remaining, hq, hc, forEach, Trace.finished_andThen]
      simp only [idle]
      rcases hm : inner.move net s with ⟨m, inner', s'⟩
      rw [hm] at hi
      cases m with
      | record record =>
        simp only [GoesOn] at hi
        simp only [hi]
        exact goesOn_takePage net { state with current := none, pending := [], page := {} } hp
          inner' record s'
      | finished => exact fun b body => hi b _
      | failed e => exact fun b body => ⟨(hi b _).1, (hi b _).2⟩
      | overflow => exact fun b body => ⟨(hi b _).1, (hi b _).2⟩
      | working =>
        intro b body
        rw [idle]
        refine ⟨(hi b _).1, Trace.le_trans (hi b _).2 ?_⟩
        exact inner.remaining_mono net (fun record s => pages_mono (fun _ _ => Trace.le_refl _) b.le_succ {} s)
          (Nat.le_refl _) s

/-- **A move takes the next act** from what is left of the loops of a chain. -/
theorem goesOn_move (net : Network σ) {c : Chain} (hc : c.Ready) (s : σ) :
    GoesOn net (fun b body => c.remaining net b body s) (c.move net s) := by
  induction c generalizing s with
  | seed records =>
    cases records with
    | nil => exact fun _ _ => rfl
    | cons r rest => exact fun _ _ => rfl
  | step q state inner ih =>
    obtain ⟨ha, hp, hi⟩ := hc
    rw [move]
    split
    · rename_i h
      exact goesOn_moveStep state (by simpa [h] using hp) (ih hi s)
    · rename_i h
      have hp : state.params = q.params := by simpa [h] using hp
      rw [hp, ha]
      exact goesOn_moveStep { state with params := q.requestParams, authenticated := true } rfl
        (ih hi s)

theorem ready_takePage {q : QueryStep} (state : StepState) {inner : Chain} (h : (step q state inner).Ready)
    (record : Record) (s : σ) : (takePage net q state inner record s).2.1.Ready := by
  rw [takePage]
  split <;> exact h

theorem ready_moveStep {q : QueryStep} {state : StepState} {inner : Chain} (h : (step q state inner).Ready)
    {s : σ} (hi : (inner.move net s).2.1.Ready) :
    (moveStep net (inner.move net) q state inner s).2.1.Ready := by
  rw [moveStep]
  split
  · exact h
  · split
    · exact ready_takePage _ h _ s
    · rcases hm : inner.move net s with ⟨m, inner', s'⟩
      rw [hm] at hi
      have h' : (step q state inner').Ready := ⟨h.1, h.2.1, hi⟩
      cases m with
      | record record => exact ready_takePage { state with page := {} } h' record s'
      | finished | failed | overflow | working => exact h'

theorem ready_move (net : Network σ) {c : Chain} (hc : c.Ready) (s : σ) : (c.move net s).2.1.Ready := by
  induction c generalizing s with
  | seed records => cases records <;> trivial
  | step q state inner ih =>
    have hc' := hc
    obtain ⟨ha, hp, hi⟩ := hc
    rw [move]
    split
    · exact ready_moveStep hc' (ih hi s)
    · rename_i h
      have hp : state.params = q.params := by simpa [h] using hp
      rw [hp, ha]
      exact ready_moveStep ⟨ha, rfl, hi⟩ (ih hi s)

/-! ## Runs of moves -/

/-- The act of a move, and what the chain it leaves does after it. -/
def act (next : Chain → σ → Trace σ) : Move × Chain × σ → Trace σ
  | (.record r, c, s) => .record r s (next c s)
  | (.working, c, s) => .page (next c s)
  | (.finished, _, s) => .finished s
  | (.failed e, _, s) => .failed e s
  | (.overflow, _, s) => .overflow s

/-- The acts of a chain in its next moves. -/
def trace (net : Network σ) : Nat → Chain → σ → Trace σ
  | 0, _, _ => .cut
  | n + 1, c, s => act (trace net n) (c.move net s)

theorem remaining_le_act {c : Chain} (hc : c.Ready) (b : Nat) (s : σ) :
    c.remaining net b emit s ≤ act (fun c => c.remaining net b emit) (c.move net s) := by
  have hg := goesOn_move net hc s
  rcases hm : c.move net s with ⟨m, c', s'⟩
  rw [hm] at hg
  cases m with
  | record r => exact Trace.le_of_eq (hg b emit)
  | finished => exact Trace.le_of_eq (hg b emit)
  | failed e => exact (hg b emit).1
  | overflow => exact (hg b emit).1
  | working => exact (hg b emit).1

theorem act_le_remaining {c : Chain} (hc : c.Ready) (b : Nat) (s : σ) :
    act (fun c => c.remaining net b emit) (c.move net s) ≤ c.remaining net (b + 1) emit s := by
  have hg := goesOn_move net hc s
  rcases hm : c.move net s with ⟨m, c', s'⟩
  rw [hm] at hg
  cases m with
  | record r =>
    have grown := c'.remaining_mono net (fun r s => Trace.le_refl (emit r s)) b.le_succ s'
    exact Trace.le_trans (.record r s' grown) (Trace.le_of_eq (hg (b + 1) emit).symm)
  | finished => exact Trace.le_of_eq (hg (b + 1) emit).symm
  | failed e => exact Trace.le_of_eq (hg b emit).2.symm
  | overflow => exact Trace.le_of_eq (hg b emit).2.symm
  | working => exact (hg b emit).2

/-- Moves do nothing that the loops do not do, and in no other order. -/
theorem trace_le_remaining {c : Chain} (hc : c.Ready) (n : Nat) (s : σ) :
    c.trace net n s ≤ c.remaining net n emit s := by
  induction n generalizing c s with
  | zero => exact .cut _
  | succ n ih =>
    refine Trace.le_trans ?_ (act_le_remaining hc n s)
    have hr := ready_move net hc s
    rw [trace]
    rcases hm : c.move net s with ⟨m, c', s'⟩
    rw [hm] at hr
    cases m with
    | record r => exact .record r s' (ih hr s')
    | working => exact .page (ih hr s')
    | finished | failed | overflow => exact Trace.le_refl _

/-- Moves do all that the loops do: a beginning of the loops is a beginning of enough moves. -/
theorem le_trace (net : Network σ) {t : Trace σ} {c : Chain} (hc : c.Ready) {b : Nat} {s : σ}
    (ht : t ≤ c.remaining net b emit s) : ∃ n, t ≤ c.trace net n s := by
  -- The acts of `t` are taken one by one; the next move has to be of the kind of the first.
  induction t generalizing c s with
  | cut => exact ⟨0, .cut _⟩
  | finished s₁ | failed e s₁ | overflow s₁ =>
    have h := Trace.le_trans ht (remaining_le_act hc b s)
    refine ⟨1, ?_⟩
    rw [trace]
    rcases hm : c.move net s with ⟨m, c', s'⟩
    rw [hm] at h
    cases m <;> cases h
    exact Trace.le_refl _
  | page t ih | record r s₁ t ih =>
    have h := Trace.le_trans ht (remaining_le_act hc b s)
    have hr := ready_move net hc s
    rcases hm : c.move net s with ⟨m, c', s'⟩
    rw [hm] at h hr
    cases m <;> cases h
    rename_i h
    obtain ⟨n, hn⟩ := ih hr h
    refine ⟨n + 1, ?_⟩
    rw [trace, hm]
    first | exact .page hn | exact .record _ _ hn

/-! ## Calls -/

/-- The answers of a chain to calls made one after the other, each with the state when it is
given. No call is made after an answer that ends the run. -/
inductive Calls (net : Network σ) : Chain → σ → List (Move × σ) → Prop
  | none (c : Chain) (s : σ) : Calls net c s []
  | record {c c' : Chain} {s s' : σ} {fuel : Nat} {r : Record} {answers : List (Move × σ)} :
    c.pull net fuel s = (.record r, c', s') → Calls net c' s' answers →
      Calls net c s ((.record r, s') :: answers)
  | finished {c c' : Chain} {s s' : σ} {fuel : Nat} :
    c.pull net fuel s = (.finished, c', s') → Calls net c s [(.finished, s')]
  | failed {c c' : Chain} {s s' : σ} {fuel : Nat} {e : RestError} :
    c.pull net fuel s = (.failed e, c', s') → Calls net c s [(.failed e, s')]
  | overflow {c c' : Chain} {s s' : σ} {fuel : Nat} :
    c.pull net fuel s = (.overflow, c', s') → Calls net c s [(.overflow, s')]

/-- A pull that answers makes some working moves and then the move that answers. -/
theorem pull_answers {fuel : Nat} {c c' : Chain} {s s' : σ} {m : Move}
    (h : c.pull net fuel s = (m, c', s')) (hm : m ≠ .working) :
    ∃ (k : Nat) (c₁ : Chain) (s₁ : σ), c₁.move net s₁ = (m, c', s') ∧
      ∀ n, (c.trace net (k + n) s).answers = (c₁.trace net n s₁).answers := by
  induction fuel generalizing c s with
  | zero => cases h; exact absurd rfl hm
  | succ fuel ih =>
    rw [pull] at h
    split at h
    · rename_i c₂ s₂ hw
      obtain ⟨k, c₁, s₁, h₁, hk⟩ := ih h
      refine ⟨k + 1, c₁, s₁, h₁, fun n => ?_⟩
      rw [← hk n, show k + 1 + n = (k + n) + 1 by omega, trace, hw]
      rfl
    · exact ⟨0, c, s, h, fun n => by rw [Nat.zero_add]⟩

theorem Calls.working {c c' : Chain} {s s' : σ} {answers : List (Move × σ)}
    (hm : c.move net s = (.working, c', s')) (h : Calls net c' s' answers) :
    Calls net c s answers := by
  have more (fuel : Nat) : c.pull net (fuel + 1) s = c'.pull net fuel s' := by rw [pull, hm]
  cases h with
  | none => exact .none c s
  | record h rest => exact .record ((more _).trans h) rest
  | finished h => exact .finished ((more _).trans h)
  | failed h => exact .failed ((more _).trans h)
  | overflow h => exact .overflow ((more _).trans h)

theorem pull_one {c c' : Chain} {s s' : σ} {m : Move} (h : c.move net s = (m, c', s')) :
    c.pull net 1 s = (m, c', s') := by
  rw [pull, h]
  cases m <;> rfl

/-- Calls see the answers of the moves that a chain makes. -/
theorem calls_iff_trace {c : Chain} {s : σ} {answers : List (Move × σ)} :
    Calls net c s answers ↔ ∃ n, answers <+: (c.trace net n s).answers := by
  constructor
  · intro h
    induction h with
    | none c s => exact ⟨0, List.nil_prefix⟩
    | record h _ ih =>
      obtain ⟨k, c₁, s₁, h₁, hk⟩ := pull_answers h (by simp)
      obtain ⟨n, hn⟩ := ih
      refine ⟨k + (n + 1), ?_⟩
      rw [hk, trace, h₁]
      exact List.cons_prefix_cons.2 ⟨rfl, hn⟩
    | finished h | failed h | overflow h =>
      obtain ⟨k, c₁, s₁, h₁, hk⟩ := pull_answers h (by simp)
      refine ⟨k + 1, ?_⟩
      rw [hk, trace, h₁]
      exact List.prefix_refl _
  · rintro ⟨n, h⟩
    induction n generalizing c s answers with
    | zero => rw [List.prefix_nil.1 h]; exact .none c s
    | succ n ih =>
      rw [trace] at h
      rcases hm : c.move net s with ⟨m, c', s'⟩
      rw [hm] at h
      cases answers with
      | nil => exact .none c s
      | cons a rest =>
        cases m with
        | working => exact .working hm (ih h)
        | record r =>
          change a :: rest <+: (.record r, s') :: _ at h
          obtain ⟨rfl, hrest⟩ := List.cons_prefix_cons.1 h
          exact .record (pull_one hm) (ih hrest)
        | finished =>
          change a :: rest <+: [(.finished, s')] at h
          obtain ⟨rfl, hrest⟩ := List.cons_prefix_cons.1 h
          rw [List.prefix_nil.1 hrest]
          exact .finished (pull_one hm)
        | failed e =>
          change a :: rest <+: [(.failed e, s')] at h
          obtain ⟨rfl, hrest⟩ := List.cons_prefix_cons.1 h
          rw [List.prefix_nil.1 hrest]
          exact .failed (pull_one hm)
        | overflow =>
          change a :: rest <+: [(.overflow, s')] at h
          obtain ⟨rfl, hrest⟩ := List.cons_prefix_cons.1 h
          rw [List.prefix_nil.1 hrest]
          exact .overflow (pull_one hm)

/-- **Calls see what the loops do**: the same answers in the same order, each in the same state. -/
theorem calls_iff_remaining {c : Chain} (hc : c.Ready) {s : σ} {answers : List (Move × σ)} :
    Calls net c s answers ↔ ∃ b, answers <+: (c.remaining net b emit s).answers := by
  rw [calls_iff_trace]
  constructor
  · rintro ⟨n, h⟩
    exact ⟨n, h.trans (Trace.answers_prefix (trace_le_remaining hc n s))⟩
  · rintro ⟨b, h⟩
    obtain ⟨n, hn⟩ := le_trace net hc (Trace.le_refl (c.remaining net b emit s))
    exact ⟨n, h.trans (Trace.answers_prefix hn)⟩

end Chain

end MetaGraph

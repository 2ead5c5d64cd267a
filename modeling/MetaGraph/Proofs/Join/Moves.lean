/-
Runs of moves. A step that has nothing left of a record moves the chain below
it; the record that this hands out is the step's next one, and the step
stands at its first page, whatever page it stood at before. From there on a
page is a working move, and handing out what it brought takes a move for
each record.
-/
import MetaGraph.Proofs.Join.Pulling

namespace MetaGraph

namespace Chain

variable {σ : Type} {net : Network σ}

/-- Some moves of a chain, none of which ends it: how many of them were working moves, and the
records that the others handed out. -/
inductive Run (net : Network σ) : Chain → σ → Nat → List Record → Chain → σ → Prop
  | rest (c : Chain) (s : σ) : Run net c s 0 [] c s
  | working {c c₁ c₂ : Chain} {s s₁ s₂ : σ} {n : Nat} {out : List Record} :
    c.move net s = (.working, c₁, s₁) → Run net c₁ s₁ n out c₂ s₂ → Run net c s (n + 1) out c₂ s₂
  | record {c c₁ c₂ : Chain} {s s₁ s₂ : σ} {n : Nat} {r : Record} {out : List Record} :
    c.move net s = (.record r, c₁, s₁) → Run net c₁ s₁ n out c₂ s₂ → Run net c s n (r :: out) c₂ s₂

theorem Run.append {c c₁ c₂ : Chain} {s s₁ s₂ : σ} {n n' : Nat} {out out' : List Record}
    (h : Run net c s n out c₁ s₁) (h' : Run net c₁ s₁ n' out' c₂ s₂) :
    Run net c s (n + n') (out ++ out') c₂ s₂ := by
  induction h with
  | rest => simpa using h'
  | @working _ _ _ _ _ _ n _ hm _ ih =>
    rw [show n + 1 + n' = n + n' + 1 by omega]
    exact .working hm (ih h')
  | record hm _ ih => exact .record hm (ih h')

/-- Chains whose next moves are the same run alike from there on. -/
theorem Run.of_move_eq {c c' c₂ : Chain} {s s' s₂ : σ} {n : Nat} {out : List Record}
    (same : c.move net s = c'.move net s') (h : Run net c' s' n out c₂ s₂) (moved : c₂ ≠ c') :
    Run net c s n out c₂ s₂ := by
  cases h with
  | rest => exact absurd rfl moved
  | working hm rest => exact .working (same.trans hm) rest
  | record hm rest => exact .record (same.trans hm) rest

end Chain

/-! ## A step and its record -/

/-- Nothing is left of a record. The step may stand at any page, and need not have been
authenticated yet. -/
structure StepState.Idle (q : QueryStep) (state : StepState) : Prop where
  authenticates : q.authenticate q.params = .ok q.requestParams
  params : state.params = if state.authenticated then q.requestParams else q.params
  pending : state.pending = []
  current : state.current = none

namespace QueryStep

/-- A step that stands at a page of a record. -/
def standing (q : QueryStep) (record : Record) (page : PageState) (inner : Chain) : Chain :=
  .step q ⟨q.requestParams, true, some record, [], page⟩ inner

/-- A step that is done with a record. -/
def done (q : QueryStep) (page : PageState) (inner : Chain) : Chain :=
  .step q ⟨q.requestParams, true, none, [], page⟩ inner

variable {σ : Type} {net : Network σ} {q : QueryStep} {record : Record} {page : PageState}
  {inner inner' : Chain} {s s' : σ}

theorem done_ne_standing (page' : PageState) : q.done page' inner' ≠ q.standing record page inner := by
  intro h
  injection h with _ h _
  cases h

/-- An idle step moves as if it stood at the first page of the record that it is fed. -/
theorem move_idle {state : StepState} (h : state.Idle q)
    (feeds : inner.move net s = (.record record, inner', s')) :
    (Chain.step q state inner).move net s = (q.standing record {} inner').move net s' := by
  obtain ⟨params, authenticated, current, pending, page⟩ := state
  obtain ⟨auth, given, pend, cur⟩ := h
  dsimp only at given pend cur
  subst pend cur
  cases authenticated <;> simp only [Bool.false_eq_true, if_true, if_false] at given <;> subst given <;>
    simp only [standing, Chain.move, Chain.moveStep, feeds, auth, Bool.false_eq_true, if_true, if_false]

/-- What a page brought is handed out record by record. -/
theorem run_pending (current : Option Record) (pending : List Record) (page : PageState) (inner : Chain)
    (s : σ) : Chain.Run net (.step q ⟨q.requestParams, true, current, pending, page⟩ inner) s 0 pending
      (.step q ⟨q.requestParams, true, current, [], page⟩ inner) s := by
  induction pending with
  | nil => exact .rest _ s
  | cons r rest ih => exact .record (by simp only [Chain.move, Chain.moveStep, if_true]) ih

/-- A page is asked for in one move, which queues its records. -/
theorem move_page {p : Page} (h : q.fetchPage q.requestParams net record page s = (some (.ok p), s')) :
    (q.standing record page inner).move net s =
      (.working,
        .step q ⟨q.requestParams, true, if p.more then some record else none, p.records, p.state⟩ inner,
        s') := by
  simp only [standing, Chain.move, Chain.moveStep, Chain.takePage, h, if_true]

/-- What a page brought is handed out after the move that asks for it. -/
theorem run_page {p : Page} (h : q.fetchPage q.requestParams net record page s = (some (.ok p), s')) :
    Chain.Run net (q.standing record page inner) s 1 p.records
      (if p.more then q.standing record p.state inner else q.done p.state inner) s' := by
  have after : (if p.more then q.standing record p.state inner else q.done p.state inner) =
      .step q ⟨q.requestParams, true, if p.more then some record else none, [], p.state⟩ inner := by
    cases p.more <;> rfl
  rw [after]
  exact .working (move_page h) (run_pending _ p.records p.state inner s')

/-- A page that cannot be had ends the run. -/
theorem move_failed {e : RestError}
    (h : q.fetchPage q.requestParams net record page s = (some (.error e), s')) :
    (q.standing record page inner).move net s = (.failed e, q.done page inner, s') := by
  simp only [standing, done, Chain.move, Chain.moveStep, Chain.takePage, h, if_true]

/-- A page after which the items cannot be counted stops the program. -/
theorem move_overflow (h : q.fetchPage q.requestParams net record page s = (none, s')) :
    (q.standing record page inner).move net s = (.overflow, q.done page inner, s') := by
  simp only [standing, done, Chain.move, Chain.moveStep, Chain.takePage, h, if_true]

end QueryStep

end MetaGraph

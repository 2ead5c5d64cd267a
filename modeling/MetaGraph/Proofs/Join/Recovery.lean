/-
Steps after a fault. A step that fails gives up the record it stands at: it
keeps nothing of the page that failed, and it has taken nothing else from the
chain below it. What its page counter is left at does not matter, since the
next record starts at its first page. So the step goes on as a fresh one over
the same chain, and a fault of the chain below is only passed on.
-/
import MetaGraph.Proofs.Join.EmptyResult
import MetaGraph.Proofs.Join.Moves

namespace MetaGraph

/-! ## Sessions -/

/-- A call of a chain with its answer, and the state of the network before and after it. -/
structure Exchange (σ : Type) where
  before : σ
  answer : Move
  after : σ

namespace Chain

variable {σ : Type} {net : Network σ}

/-- Calls of a chain one after the other, whatever they are answered, and the chain that they
leave. Each call may find the network in any state. -/
inductive Session (net : Network σ) : Chain → List (Exchange σ) → Chain → Prop
  | rest (c : Chain) : Session net c [] c
  | call {c c' c'' : Chain} {s s' : σ} {fuel : Nat} {m : Move} {later : List (Exchange σ)} :
    c.pull net fuel s = (m, c', s') → m ≠ .working → Session net c' later c'' →
      Session net c (⟨s, m, s'⟩ :: later) c''

theorem Session.append {c c' c'' : Chain} {calls later : List (Exchange σ)} (h : Session net c calls c')
    (h' : Session net c' later c'') : Session net c (calls ++ later) c'' := by
  induction h with
  | rest => exact h'
  | call pulled answer _ ih => exact .call pulled answer (ih h')

/-- A session with one more call. -/
theorem Session.concat {c c' c'' : Chain} {calls : List (Exchange σ)} {s s' : σ} {fuel : Nat} {m : Move}
    (h : Session net c calls c') (pulled : c'.pull net fuel s = (m, c'', s')) (answer : m ≠ .working) :
    Session net c (calls ++ [⟨s, m, s'⟩]) c'' :=
  h.append (.call pulled answer (.rest c''))

/-- A pull that is still working after some moves goes on from there. -/
theorem pull_add {n : Nat} {c c₁ : Chain} {s s₁ : σ} (h : c.pull net n s = (.working, c₁, s₁)) (k : Nat) :
    c.pull net (n + k) s = c₁.pull net k s₁ := by
  induction n generalizing c s with
  | zero =>
    cases h
    rw [Nat.zero_add]
  | succ n ih =>
    rw [pull] at h
    rw [Nat.succ_add, pull]
    split at h
    · exact ih h
    · rename_i answer
      exact absurd h (answer c₁ s₁)

end Chain

/-! ## Idle steps -/

namespace QueryStep

variable {σ : Type} {net : Network σ} {q : QueryStep} {inner inner' : Chain} {s s' : σ}

theorem idle_done (authenticates : q.authenticate q.params = .ok q.requestParams) (page : PageState) :
    StepState.Idle q ⟨q.requestParams, true, none, [], page⟩ :=
  ⟨authenticates, rfl, rfl, rfl⟩

/-- An idle step passes on what is no record, and is done with the record before. -/
theorem move_passes {state : StepState} {m : Move} (h : state.Idle q)
    (asked : inner.move net s = (m, inner', s')) (other : ∀ r, m ≠ .record r) :
    (Chain.step q state inner).move net s = (m, q.done state.page inner', s') := by
  obtain ⟨params, authenticated, current, pending, page⟩ := state
  obtain ⟨auth, given, pend, cur⟩ := h
  dsimp only at given pend cur
  subst pend cur
  cases authenticated <;> simp only [Bool.false_eq_true, if_true, if_false] at given <;> subst given <;>
    simp only [done, Chain.move, Chain.moveStep, asked, auth, Bool.false_eq_true, if_true, if_false]

end QueryStep

namespace Chain

variable {σ : Type} {net : Network σ} {q : QueryStep}

/-- Two chains that are one, or one step over one chain, idle both times. -/
inductive SameOrIdle (q : QueryStep) : Chain → Chain → Prop
  | same (c : Chain) : SameOrIdle q c c
  | idle {state₁ state₂ : StepState} (inner : Chain) : state₁.Idle q → state₂.Idle q →
    SameOrIdle q (.step q state₁ inner) (.step q state₂ inner)

theorem SameOrIdle.symm {c₁ c₂ : Chain} (h : SameOrIdle q c₁ c₂) : SameOrIdle q c₂ c₁ := by
  cases h with
  | same => exact .same _
  | idle inner h₁ h₂ => exact .idle inner h₂ h₁

/-- Of two idle steps a pull makes the same, and leaves them idle or makes them one. -/
theorem SameOrIdle.pull (net : Network σ) {c₁ c₂ : Chain} (h : SameOrIdle q c₁ c₂) (fuel : Nat) (s : σ) :
    ∃ m c₁' c₂' s', c₁.pull net fuel s = (m, c₁', s') ∧ c₂.pull net fuel s = (m, c₂', s') ∧
      SameOrIdle q c₁' c₂' := by
  induction fuel generalizing c₁ c₂ s with
  | zero => exact ⟨_, _, _, _, rfl, rfl, h⟩
  | succ fuel ih =>
    cases h with
    | same => exact ⟨_, _, _, _, rfl, rfl, .same _⟩
    | @idle state₁ state₂ inner h₁ h₂ =>
      have left (page : PageState) := QueryStep.idle_done h₁.authenticates page
      rcases hm : inner.move net s with ⟨m, inner', s'⟩
      simp only [Chain.pull]
      cases m with
      | record r =>
        -- From the next record on both stand at its first page.
        rw [QueryStep.move_idle h₁ hm, QueryStep.move_idle h₂ hm]
        exact ⟨_, _, _, _, rfl, rfl, .same _⟩
      | working =>
        rw [QueryStep.move_passes h₁ hm (by simp), QueryStep.move_passes h₂ hm (by simp)]
        exact ih (.idle inner' (left _) (left _)) s'
      | finished | failed | overflow =>
        rw [QueryStep.move_passes h₁ hm (by simp), QueryStep.move_passes h₂ hm (by simp)]
        exact ⟨_, _, _, _, rfl, rfl, .idle inner' (left _) (left _)⟩

theorem SameOrIdle.session {c₁ c₂ c₁' : Chain} {calls : List (Exchange σ)} (h : SameOrIdle q c₁ c₂)
    (made : Session net c₁ calls c₁') : ∃ c₂', Session net c₂ calls c₂' := by
  induction made generalizing c₂ with
  | rest => exact ⟨c₂, .rest c₂⟩
  | @call c₁ c₁' _ s _ fuel _ _ pulled answer _ ih =>
    obtain ⟨m, d₁, d₂, s', first, second, after⟩ := h.pull net fuel s
    rw [pulled] at first
    cases first
    obtain ⟨c₂', later⟩ := ih after
    exact ⟨c₂', .call second answer later⟩

/-- **Idle steps cannot be told apart** by calls, whatever the network does. -/
theorem session_iff_of_idle {state₁ state₂ : StepState} (inner : Chain) (h₁ : state₁.Idle q)
    (h₂ : state₂.Idle q) (calls : List (Exchange σ)) :
    (∃ c, Session net (.step q state₁ inner) calls c) ↔ ∃ c, Session net (.step q state₂ inner) calls c := by
  have alike : SameOrIdle q (.step q state₁ inner) (.step q state₂ inner) := .idle inner h₁ h₂
  exact ⟨fun ⟨_, h⟩ => alike.session h, fun ⟨_, h⟩ => alike.symm.session h⟩

end Chain

/-! ## One call of an idle step -/

namespace QueryStep

variable {σ : Type} {net : Network σ} {q : QueryStep} {inner inner' : Chain} {s s' : σ} {state : StepState}

/-- What the chain below is asked for in a pull, an idle step passes on if it is no record. -/
theorem pull_passes {fuel : Nat} {m : Move} (h : state.Idle q)
    (asked : inner.pull net fuel s = (m, inner', s')) (other : ∀ r, m ≠ .record r) :
    ∃ state', state'.Idle q ∧ state'.page = state.page ∧
      (Chain.step q state inner).pull net fuel s = (m, .step q state' inner', s') := by
  induction fuel generalizing state inner s with
  | zero =>
    cases asked
    exact ⟨state, h, rfl, rfl⟩
  | succ fuel ih =>
    rcases hm : inner.move net s with ⟨m₁, inner₁, s₁⟩
    rw [Chain.pull, hm] at asked
    have left := idle_done h.authenticates state.page
    cases m₁ with
    | working =>
      obtain ⟨state', idle, page, pulled⟩ := ih left asked
      exact ⟨state', idle, page, by rw [Chain.pull, move_passes h hm (by simp)]; exact pulled⟩
    | record r =>
      cases asked
      exact absurd rfl (other r)
    | finished | failed | overflow =>
      cases asked
      exact ⟨_, left, rfl, by rw [Chain.pull, move_passes h hm (by simp)]; rfl⟩

/-- Once the chain below hands out a record, an idle step stands at the first page of it. -/
theorem pull_fed {fuel : Nat} {record : Record} (h : state.Idle q)
    (asked : inner.pull net fuel s = (.record record, inner', s')) : ∃ n < fuel, ∀ k,
      (Chain.step q state inner).pull net (n + (k + 1)) s =
        (q.standing record {} inner').pull net (k + 1) s' := by
  induction fuel generalizing state inner s with
  | zero => cases asked
  | succ fuel ih =>
    rcases hm : inner.move net s with ⟨m₁, inner₁, s₁⟩
    rw [Chain.pull, hm] at asked
    cases m₁ with
    | working =>
      obtain ⟨n, hn, pulled⟩ := ih (idle_done h.authenticates state.page) asked
      refine ⟨n + 1, by omega, fun k => ?_⟩
      rw [Nat.succ_add, Chain.pull, move_passes h hm (by simp)]
      exact pulled k
    | record r =>
      cases asked
      refine ⟨0, Nat.zero_lt_succ fuel, fun k => ?_⟩
      rw [Nat.zero_add, Chain.pull, Chain.pull, move_idle h hm]
    | finished | failed | overflow => cases asked

end QueryStep

/-! ## Failed calls -/

namespace QueryStep

variable {σ : Type}

/-- The step starts anew over what is left of the chain below it: it keeps nothing of earlier
records, the next record is asked for from its first page on, and no calls can tell the step from
a fresh one. -/
structure StartsAnew (net : Network σ) (q : QueryStep) (left : Chain) (c : Chain) : Prop where
  keeps_nothing : ∃ state, c = .step q state left ∧ state.pending = [] ∧ state.current = none
  first_page : ∀ s s' record left', left.move net s = (.record record, left', s') →
    c.move net s = (q.standing record {} left').move net s'
  as_fresh : ∀ calls, (∃ c', Chain.Session net c calls c') ↔
    ∃ c', Chain.Session net (left.addStep q) calls c'

/-- How a call of an authenticated step over the chain `inner` fails: the step was `c` before the
call, and is `c'` after it. -/
inductive FailedCall (net : Network σ) (q : QueryStep) (inner c : Chain) (s : σ) (e : RestError) (c' : Chain)
    (s' : σ) : Prop
  /-- A page could not be had. Its record was the last that the chain below handed out, so that
  the records after it are those that are left. -/
  | page {asked : List (Exchange σ)} {record : Record} {page : PageState} {left : Chain} {s₁ s₂ s₃ : σ} :
    Chain.Session net inner (asked ++ [⟨s₁, .record record, s₂⟩]) left →
      q.fetchPage q.requestParams net record page s₃ = (some (.error e), s') →
      q.StartsAnew net left c' → FailedCall net q inner c s e c' s'
  /-- The chain below failed. The step is the same as before but for that chain. -/
  | below {asked : List (Exchange σ)} {state state' : StepState} {left left' : Chain} {n fuel : Nat} {s₁ : σ} :
    Chain.Session net inner asked left → c.pull net n s = (.working, .step q state left, s₁) →
      left.pull net fuel s₁ = (.failed e, left', s') → c' = .step q state' left' →
      state'.pending = state.pending → state'.current = state.current → state'.page = state.page →
      q.StartsAnew net left' c' → FailedCall net q inner c s e c' s'

variable {net : Network σ} {q : QueryStep} {inner left : Chain}

theorem startsAnew_of_idle {state : StepState} (h : state.Idle q) (left : Chain) :
    q.StartsAnew net left (.step q state left) where
  keeps_nothing := ⟨state, rfl, h.pending, h.current⟩
  first_page _ _ _ _ fed := move_idle h fed
  as_fresh := Chain.session_iff_of_idle left h ⟨h.authenticates, rfl, rfl, rfl⟩

/-- A call that fails later on fails. -/
theorem FailedCall.of_working {c c₁ c' : Chain} {n : Nat} {s s₁ s' : σ} {e : RestError}
    (first : c.pull net n s = (.working, c₁, s₁)) (h : q.FailedCall net inner c₁ s₁ e c' s') :
    q.FailedCall net inner c s e c' s' := by
  cases h with
  | page session refused anew => exact .page session refused anew
  | below session worked failed same pending current page anew =>
    exact .below session ((Chain.pull_add first _).trans worked) failed same pending current page anew

/-- A step between two calls. The chain below it is what the calls that the step made of it have
left, and a record that has more pages is the last that came of these calls. -/
structure Between (net : Network σ) (q : QueryStep) (inner : Chain) (asked : List (Exchange σ)) (state : StepState)
    (left : Chain) : Prop where
  authenticates : q.authenticate q.params = .ok q.requestParams
  stands : state.Idle q ∨ state.params = q.requestParams ∧ state.authenticated = true
  session : Chain.Session net inner asked left
  current : ∀ record, state.current = some record → ∃ before s s', asked = before ++ [⟨s, .record record, s'⟩]

/-- What an answered call of a step comes to: the step is between two calls again, and if the
call failed, it did so in one of the two ways. -/
def Settles (net : Network σ) (q : QueryStep) (inner c : Chain) (s : σ) : Move × Chain × σ → Prop
  | (m, c', s') => ∃ asked state left, c' = .step q state left ∧ q.Between net inner asked state left ∧
      ∀ e, m = .failed e → q.FailedCall net inner c s e c' s'

theorem Settles.of_working {c c₁ : Chain} {n : Nat} {s s₁ : σ} {result : Move × Chain × σ}
    (first : c.pull net n s = (.working, c₁, s₁)) (h : q.Settles net inner c₁ s₁ result) :
    q.Settles net inner c s result := by
  obtain ⟨asked, state, left, rfl', between, fails⟩ := h
  exact ⟨asked, state, left, rfl', between, fun e he => (fails e he).of_working first⟩

/-- A call that comes to a page of a record, if it settles after that page. -/
theorem settles_of_page {asked before : List (Exchange σ)} {record : Record} {page : PageState} {c : Chain}
    {n k : Nat} {s s₁ s₂ s₃ : σ} (authenticates : q.authenticate q.params = .ok q.requestParams)
    (session : Chain.Session net inner asked left) (last : asked = before ++ [⟨s₁, .record record, s₂⟩])
    (comes : ∀ k, c.pull net (n + (k + 1)) s = (q.standing record page left).pull net (k + 1) s₃)
    (later : ∀ state s', q.Between net inner asked state left →
      ((Chain.step q state left).pull net k s').1 ≠ .working →
        q.Settles net inner (.step q state left) s' ((Chain.step q state left).pull net k s'))
    (answered : (c.pull net (n + (k + 1)) s).1 ≠ .working) :
    q.Settles net inner c s (c.pull net (n + (k + 1)) s) := by
  have idle := idle_done authenticates page
  rcases hf : q.fetchPage q.requestParams net record page s₃ with ⟨_ | e | p, s'⟩
  · have stopped : c.pull net (n + (k + 1)) s = (.overflow, q.done page left, s') := by
      rw [comes, Chain.pull, move_overflow hf]
    rw [stopped]
    refine ⟨asked, _, left, rfl, ⟨authenticates, .inl idle, session, by simp⟩, ?_⟩
    rintro _ ⟨⟩
  · have failed : c.pull net (n + (k + 1)) s = (.failed e, q.done page left, s') := by
      rw [comes, Chain.pull, move_failed hf]
    rw [failed]
    refine ⟨asked, _, left, rfl, ⟨authenticates, .inl idle, session, by simp⟩, ?_⟩
    rintro _ ⟨⟩
    exact .page (last ▸ session) hf (startsAnew_of_idle idle left)
  · have first : c.pull net (n + 1) s = (.working, .step q
        ⟨q.requestParams, true, if p.more then some record else none, p.records, p.state⟩ left, s') := by
      rw [← Nat.zero_add 1, comes 0, Chain.pull, move_page hf]
      rfl
    have rest := Chain.pull_add first k
    rw [Nat.add_assoc, Nat.add_comm 1 k] at rest
    rw [rest] at answered ⊢
    refine (later _ s' ⟨authenticates, .inr ⟨rfl, rfl⟩, session, ?_⟩ answered).of_working first
    intro r hr
    refine ⟨before, s₁, s₂, ?_⟩
    split at hr
    · cases hr
      exact last
    · cases hr

/-- An idle step settles once the chain below it has answered, and unless that hands out a record
it settles with the same answer. -/
theorem settles_of_idle {asked : List (Exchange σ)} {state : StepState} {fuel : Nat} {s : σ}
    (h : q.Between net inner asked state left) (idle : state.Idle q)
    (later : ∀ k < fuel, ∀ asked state left s, q.Between net inner asked state left →
      ((Chain.step q state left).pull net k s).1 ≠ .working →
        q.Settles net inner (.step q state left) s ((Chain.step q state left).pull net k s))
    (answered : ((Chain.step q state left).pull net fuel s).1 ≠ .working) :
    q.Settles net inner (.step q state left) s ((Chain.step q state left).pull net fuel s) := by
  rcases hm : left.pull net fuel s with ⟨m, left', s'⟩
  cases m with
  | record r =>
    obtain ⟨n, hn, comes⟩ := pull_fed idle hm
    obtain ⟨k, rfl⟩ : ∃ k, fuel = n + (k + 1) := ⟨fuel - n - 1, by omega⟩
    exact settles_of_page h.authenticates (h.session.concat hm (by simp)) rfl comes
      (fun state s' => later k (by omega) _ state left' s') answered
  | working =>
    obtain ⟨state', -, -, pulled⟩ := pull_passes idle hm (by simp)
    rw [pulled] at answered
    exact absurd rfl answered
  | finished | overflow =>
    obtain ⟨state', idle', -, pulled⟩ := pull_passes idle hm (by simp)
    rw [pulled]
    refine ⟨_, state', left', rfl, ⟨h.authenticates, .inl idle', h.session.concat hm (by simp), ?_⟩, nofun⟩
    simp [idle'.current]
  | failed e =>
    obtain ⟨state', idle', page, pulled⟩ := pull_passes idle hm (by simp)
    rw [pulled]
    refine ⟨_, state', left', rfl, ⟨h.authenticates, .inl idle', h.session.concat hm (by simp), ?_⟩, ?_⟩
    · simp [idle'.current]
    · rintro _ ⟨⟩
      exact .below (n := 0) h.session rfl hm rfl (idle'.pending.trans idle.pending.symm)
        (idle'.current.trans idle.current.symm) page (startsAnew_of_idle idle' left')

/-- Every answered call of a step settles. -/
theorem Between.settles {asked : List (Exchange σ)} {state : StepState}
    (h : q.Between net inner asked state left) (fuel : Nat) (s : σ)
    (answered : ((Chain.step q state left).pull net fuel s).1 ≠ .working) :
    q.Settles net inner (.step q state left) s ((Chain.step q state left).pull net fuel s) := by
  induction fuel using Nat.strongRecOn generalizing asked state left s with
  | _ fuel ih =>
  have later (k : Nat) (hk : k < fuel) (asked : List (Exchange σ)) (state : StepState) (left : Chain) (s : σ)
      (h : q.Between net inner asked state left)
      (answered : ((Chain.step q state left).pull net k s).1 ≠ .working) := ih k hk h s answered
  rcases h.stands with idle | ⟨hp, ha⟩
  · exact settles_of_idle h idle later answered
  obtain ⟨params, authenticated, current, pending, page⟩ := state
  dsimp only at hp ha
  subst hp ha
  cases fuel with
  | zero => exact absurd rfl answered
  | succ fuel =>
  cases pending with
  | cons r rest =>
    have handed : (Chain.step q ⟨q.requestParams, true, current, r :: rest, page⟩ left).pull net (fuel + 1) s =
        (.record r, .step q ⟨q.requestParams, true, current, rest, page⟩ left, s) := by
      simp only [Chain.pull, Chain.move, Chain.moveStep, if_true]
    rw [handed]
    exact ⟨asked, _, left, rfl, ⟨h.authenticates, .inr ⟨rfl, rfl⟩, h.session, h.current⟩, by simp⟩
  | nil =>
    cases current with
    | none => exact settles_of_idle h (idle_done h.authenticates page) later answered
    | some record =>
      obtain ⟨before, s₁, s₂, last⟩ := h.current record rfl
      have settles := settles_of_page (c := q.standing record page left) (n := 0) (k := fuel) (s := s)
        h.authenticates h.session last (fun k => by rw [Nat.zero_add])
        (fun state s' => later fuel (Nat.lt_succ_self fuel) asked state left s')
      rw [Nat.zero_add] at settles
      exact settles answered

/-- Between its calls a step stays between two calls. -/
theorem Between.session_keeps {c c' : Chain} {calls : List (Exchange σ)} (h : Chain.Session net c calls c')
    (between : ∃ asked state left, c = .step q state left ∧ q.Between net inner asked state left) :
    ∃ asked state left, c' = .step q state left ∧ q.Between net inner asked state left := by
  induction h with
  | rest => exact between
  | @call _ _ _ s _ fuel _ _ pulled answer _ ih =>
    obtain ⟨asked, state, left, rfl, between⟩ := between
    have settles := between.settles fuel s (by rwa [pulled])
    rw [pulled] at settles
    obtain ⟨asked', state', left', rfl, between', -⟩ := settles
    exact ih ⟨asked', state', left', rfl, between'⟩

theorem between_of_session (authenticates : q.authenticate q.params = .ok q.requestParams)
    {calls : List (Exchange σ)} {c : Chain} (h : Chain.Session net (inner.addStep q) calls c) :
    ∃ asked state left, c = .step q state left ∧ q.Between net inner asked state left := by
  have idle : StepState.Idle q { params := q.params } := ⟨authenticates, rfl, rfl, rfl⟩
  exact Between.session_keeps h ⟨[], _, inner, rfl, authenticates, .inl idle, .rest inner, nofun⟩

/-- A step whose requests cannot be authenticated stays as it is. -/
theorem pull_denied (net : Network σ) (inner : Chain) {e : RestError}
    (denied : q.authenticate q.params = .error e) (fuel : Nat) (s : σ) :
    (inner.addStep q).pull net fuel s = (.working, inner.addStep q, s) ∨
      (inner.addStep q).pull net fuel s = (.failed e, inner.addStep q, s) := by
  cases fuel with
  | zero => exact .inl rfl
  | succ fuel =>
    right
    simp only [Chain.addStep, Chain.pull, Chain.move, denied, Bool.false_eq_true, if_false]

theorem session_denied {e : RestError} (denied : q.authenticate q.params = .error e) {c c' : Chain}
    {calls : List (Exchange σ)} (h : Chain.Session net c calls c') (start : c = inner.addStep q) :
    c' = inner.addStep q := by
  induction h with
  | rest => exact start
  | @call _ _ _ s _ fuel _ _ pulled answer _ ih =>
    subst start
    rcases pull_denied net inner denied fuel s with same | same <;> rw [pulled] at same <;>
      cases same
    · exact absurd rfl answer
    · exact ih rfl

end QueryStep

/-- **A fault does not spoil a step.** A step over any chain is called any number of times, over any
network, and then a call fails: then its requests cannot be authenticated, and it is as it was; or
a page could not be had, and the step starts anew behind the record of that page; or the chain below
failed, and the step is as it was over what is left of that chain. -/
theorem failed_call {σ : Type} {net : Network σ} {q : QueryStep} {inner c c' : Chain}
    {calls : List (Exchange σ)} {fuel : Nat} {s s' : σ} {e : RestError}
    (called : Chain.Session net (inner.addStep q) calls c) (failed : c.pull net fuel s = (.failed e, c', s')) :
    (q.authenticate q.params = .error e ∧ c' = c ∧ s' = s) ∨ q.FailedCall net inner c s e c' s' := by
  cases auth : q.authenticate q.params with
  | error e' =>
    obtain rfl := QueryStep.session_denied auth called rfl
    rcases QueryStep.pull_denied net inner auth fuel s with same | same <;>
      rw [failed] at same <;> cases same
    exact .inl ⟨rfl, rfl, rfl⟩
  | ok params =>
    have authenticates : q.authenticate q.params = .ok q.requestParams := by
      rw [QueryStep.requestParams, auth]
    obtain ⟨asked, state, left, rfl, between⟩ := QueryStep.between_of_session authenticates called
    have settles := between.settles fuel s (by rw [failed]; simp)
    rw [failed] at settles
    obtain ⟨_, _, _, _, _, fails⟩ := settles
    exact .inr (fails e rfl)

/-! ## A page that is barred -/

namespace Join

/-- A server with an item in each of two shops, on the first page. The second page of the first shop
is barred. The state counts the requests. -/
def barredServer : Network Nat where
  send request s :=
    let reply : Reply :=
      if request.url.text = "http://shop/1?page=1" then .answer 200 (Utf8.encode "[\"pen\"]")
      else if request.url.text = "http://shop/1?page=2" then .answer 403 []
      else if request.url.text = "http://shop/2?page=1" then .answer 200 (Utf8.encode "[\"ink\"]")
      else .answer 200 (Utf8.encode "[]")
    (reply, s + 1)
  wait _ s := s

def otherShop : Record := [("shop", .text "2")]

def otherItem : Record := [("item", .text "ink"), ("shop", .text "2")]

theorem fetchPage_open : (itemStep .skip).fetchPage (itemStep .skip).requestParams barredServer shop {} 0 =
    (some (.ok ⟨[shopItem], true, { page := 2 }⟩), 1) := by
  have served : (itemStep .skip).serve barredServer shop {} 0 =
      (.ok (some ("http://shop/1?page=1", .array [.text "pen"])), 1) := by
    decide +kernel
  rw [QueryStep.fetchPage_eq, served]
  rfl

theorem fetchPage_barred : (itemStep .skip).fetchPage (itemStep .skip).requestParams barredServer shop
    { page := 2 } 1 = (some (.error (.http "http://shop/1?page=2" 403)), 2) := by
  have served : (itemStep .skip).serve barredServer shop { page := 2 } 1 =
      (.error (.http "http://shop/1?page=2" 403), 2) := by
    decide +kernel
  rw [QueryStep.fetchPage_eq, served]

theorem fetchPage_other : (itemStep .skip).fetchPage (itemStep .skip).requestParams barredServer otherShop {} 2 =
    (some (.ok ⟨[otherItem], true, { page := 2 }⟩), 3) := by
  have served : (itemStep .skip).serve barredServer otherShop {} 2 =
      (.ok (some ("http://shop/2?page=1", .array [.text "ink"])), 3) := by
    decide +kernel
  rw [QueryStep.fetchPage_eq, served]
  rfl

/-- The second page of the first shop is barred, after an item of its first page came out. The call
after that gives the item of the other shop. -/
theorem failed_call_barredPage : ∃ c c', Chain.Session barredServer
      ((Chain.seed [shop, otherShop]).addStep (itemStep .skip)) [⟨0, .record shopItem, 1⟩] c ∧
    c.pull barredServer 1 1 = (.failed (.http "http://shop/1?page=2" 403), c', 2) ∧
    (itemStep .skip).FailedCall barredServer (.seed [shop, otherShop]) c 1 (.http "http://shop/1?page=2" 403)
      c' 2 ∧
    ∃ c'', Chain.Session barredServer c' [⟨2, .record otherItem, 3⟩] c'' := by
  let q := itemStep .skip
  have idle (page : PageState) : StepState.Idle q ⟨q.requestParams, true, none, [], page⟩ :=
    QueryStep.idle_done rfl page
  have first : ((Chain.seed [shop, otherShop]).addStep q).pull barredServer 2 0 =
      (.record shopItem, q.standing shop { page := 2 } (.seed [otherShop]), 1) := by
    rw [Chain.addStep, Chain.pull, QueryStep.move_idle ⟨rfl, rfl, rfl, rfl⟩ rfl,
      QueryStep.move_page fetchPage_open]
    rfl
  have refused : (q.standing shop { page := 2 } (.seed [otherShop])).pull barredServer 1 1 =
      (.failed (.http "http://shop/1?page=2" 403), q.done { page := 2 } (.seed [otherShop]), 2) :=
    Chain.pull_one (QueryStep.move_failed fetchPage_barred)
  have next : (q.done { page := 2 } (.seed [otherShop])).pull barredServer 2 2 =
      (.record otherItem, q.standing otherShop { page := 2 } (.seed []), 3) := by
    rw [QueryStep.done, Chain.pull, QueryStep.move_idle (idle _) rfl, QueryStep.move_page fetchPage_other]
    rfl
  have called : Chain.Session barredServer ((Chain.seed [shop, otherShop]).addStep q)
      [⟨0, .record shopItem, 1⟩] (q.standing shop { page := 2 } (.seed [otherShop])) :=
    .call first (by simp) (.rest _)
  refine ⟨_, _, called, refused, (failed_call called refused).resolve_left ?_,
    _, .call next (by simp) (.rest _)⟩
  rintro ⟨denied, -⟩
  cases denied

end Join

end MetaGraph

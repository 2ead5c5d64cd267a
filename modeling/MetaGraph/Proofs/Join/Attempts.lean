/-
Which attempts an operation is given. Each attempt but the first starts where
the wait after the one before it ends. An attempt is the last if its outcome
is settled, that is, a success or a fault that will not pass, or if it uses
up the number of attempts; the first of these in the row counts.
-/
import Mathlib.Order.Bounds.Basic
import MetaGraph.Rest.Retry

namespace MetaGraph

variable {σ α : Type}

/-- No further attempt is made after this outcome: it is no fault that may pass. -/
def Settled (outcome : Except RestError α) : Prop := ∀ e, outcome = .error e → e.isTransient = false

theorem settled_ok (a : α) : Settled (.ok a : Except RestError α) := nofun

theorem settled_error_iff {e : RestError} :
    Settled (.error e : Except RestError α) ↔ e.isTransient = false :=
  ⟨fun h => h e rfl, by rintro h _ ⟨⟩; exact h⟩

namespace RetryConfig

variable {c : RetryConfig} {wait : Nat → σ → σ} {operation : σ → Except RestError α × σ} {s : σ}

/-- The attempt after `k` repeated ones: its outcome, and the state that it leaves. `done` is how
many retries there were before. -/
def attempt (c : RetryConfig) (wait : Nat → σ → σ) (operation : σ → Except RestError α × σ) :
    Nat → Nat → σ → Except RestError α × σ
  | _, 0, s => operation s
  | done, k + 1, s => attempt c wait operation (done + 1) k (wait (c.backoff done) (operation s).2)

/-- An attempt that is settled is the last. -/
theorem attempts_settled {left done : Nat} (h : Settled (operation s).1) :
    c.attempts wait operation left done s = operation s := by
  cases left with
  | zero => rfl
  | succ left =>
    rw [attempts]
    rcases ho : operation s with ⟨e | a, s'⟩
    · rw [ho, settled_error_iff] at h
      simp [h]
    · rfl

/-- An attempt that is not settled is repeated. -/
theorem attempts_repeated {left done : Nat} (h : ¬ Settled (operation s).1) :
    c.attempts wait operation (left + 1) done s =
      c.attempts wait operation left (done + 1) (wait (c.backoff done) (operation s).2) := by
  rw [attempts]
  rcases ho : operation s with ⟨e | a, s'⟩
  · rw [ho, settled_error_iff, Bool.not_eq_false] at h
    simp [h]
  · rw [ho] at h
    exact absurd (settled_ok a) h

/-- The last attempt is the first that is settled or has no other left. -/
theorem attempts_eq (c : RetryConfig) (wait : Nat → σ → σ) (operation : σ → Except RestError α × σ)
    (left done : Nat) (s : σ) :
    ∃ k, IsLeast {k | k = left ∨ Settled (c.attempt wait operation done k s).1} k ∧
      c.attempts wait operation left done s = c.attempt wait operation done k s := by
  induction left generalizing done s with
  | zero => exact ⟨0, ⟨.inl rfl, fun k _ => Nat.zero_le k⟩, rfl⟩
  | succ left ih =>
    by_cases settled : Settled (operation s).1
    · exact ⟨0, ⟨.inr settled, fun k _ => Nat.zero_le k⟩, attempts_settled settled⟩
    · obtain ⟨k, ⟨last, first⟩, same⟩ := ih (done + 1) (wait (c.backoff done) (operation s).2)
      refine ⟨k + 1, ⟨last.imp_left (congrArg (· + 1)), fun m hm => ?_⟩, (attempts_repeated settled).trans same⟩
      cases m with
      | zero => exact hm.elim (by omega) fun h => absurd h settled
      | succ m => exact Nat.succ_le_succ (first (hm.imp_left Nat.succ.inj))

theorem attempt_eq_operation (c : RetryConfig) (wait : Nat → σ → σ)
    (operation : σ → Except RestError α × σ) :
    ∀ (k done : Nat) (s : σ), ∃ s', c.attempt wait operation done k s = operation s'
  | 0, _, s => ⟨s, rfl⟩
  | k + 1, done, _ => attempt_eq_operation c wait operation k (done + 1) _

/-- The last attempt of a run is the first that is settled or uses up the attempts. -/
theorem run_eq (c : RetryConfig) (wait : Nat → σ → σ) (operation : σ → Except RestError α × σ) (s : σ) :
    ∃ k, IsLeast {k | k + 1 = max 1 c.maxAttempts ∨ Settled (c.attempt wait operation 0 k s).1} k ∧
      c.run wait operation s = c.attempt wait operation 0 k s := by
  obtain ⟨k, ⟨last, first⟩, same⟩ := c.attempts_eq wait operation (c.budget - 1) 0 s
  have budget : c.budget = max 1 c.maxAttempts := rfl
  refine ⟨k, ⟨last.imp_left (by omega), fun m hm => first (hm.imp_left ?_)⟩, same⟩
  omega

/-- What comes of a run comes of one of its attempts. -/
theorem operation_of_run {result : Except RestError α × σ} (h : c.run wait operation s = result) :
    ∃ s', operation s' = result := by
  obtain ⟨k, -, same⟩ := c.run_eq wait operation s
  obtain ⟨s', last⟩ := c.attempt_eq_operation wait operation k 0 s
  exact ⟨s', last.symm.trans (same.symm.trans h)⟩

/-- What holds after some attempts, where it is kept by waits and carried on by each attempt, holds after
those of a run. -/
theorem run_keeps {Kept : Nat → σ → Prop} (waits : ∀ ms n s, Kept n s → Kept n (wait ms s))
    (operates : ∀ n s, Kept n s → Kept (n + 1) (operation s).2) (c : RetryConfig) {s : σ} (h : Kept 0 s) :
    ∃ n ≤ max 1 c.maxAttempts, Kept n (c.run wait operation s).2 := by
  have attempt (k done n : Nat) (s : σ) (h : Kept n s) :
      Kept (n + k + 1) (c.attempt wait operation done k s).2 := by
    induction k generalizing done n s with
    | zero => exact operates n s h
    | succ k ih =>
      rw [show n + (k + 1) + 1 = n + 1 + k + 1 by omega]
      exact ih (done + 1) (n + 1) _ (waits _ _ _ (operates n s h))
  obtain ⟨k, ⟨-, first⟩, same⟩ := c.run_eq wait operation s
  have last : k ≤ max 1 c.maxAttempts - 1 := first (.inl (by omega))
  refine ⟨0 + k + 1, by omega, ?_⟩
  rw [same]
  exact attempt k 0 0 s h

/-- Of a row of outcomes a run gives the last one that it comes to, after as many attempts. -/
theorem run_outcomes (c : RetryConfig) (outcomes : Nat → Except RestError α) :
    ∃ n, IsLeast {n | n = max 1 c.maxAttempts ∨ 0 < n ∧ Settled (outcomes (n - 1))} n ∧
      c.run (fun _ made => made) (fun made => (outcomes made, made + 1)) 0 = (outcomes (n - 1), n) := by
  have attempt (k done made : Nat) : c.attempt (fun _ made => made) (fun made => (outcomes made, made + 1))
      done k made = (outcomes (made + k), made + k + 1) := by
    induction k generalizing done made with
    | zero => rfl
    | succ k ih => rw [RetryConfig.attempt, ih, Nat.add_right_comm, Nat.add_assoc]
  obtain ⟨k, ⟨last, first⟩, same⟩ := c.run_eq (fun _ made => made) (fun made => (outcomes made, made + 1)) 0
  simp only [attempt, Nat.zero_add] at last first same
  refine ⟨k + 1, ⟨last.imp_right fun h => ⟨Nat.succ_pos k, h⟩, fun n hn => ?_⟩, same⟩
  have one : 0 < n := hn.elim (by omega) And.left
  have before := first (a := n - 1) (hn.imp (by omega) And.right)
  omega

end RetryConfig

end MetaGraph

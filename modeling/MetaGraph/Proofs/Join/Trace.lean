/-
What a run of a join does, act by act: pages are asked for, records come
out, and the run ends, fails, stops the program, or is told no further. A trace that is told no
further is a beginning of every longer one, which is how a run that never
ends is spoken of: by its beginnings.
-/
import MetaGraph.Rest.Chain

namespace MetaGraph

/-- The acts of a run in order, with the state of the network where it can be seen. -/
inductive Trace (σ : Type) where
  /-- No records are left. -/
  | finished (s : σ)
  | failed (e : RestError) (s : σ)
  /-- The items of the pages cannot be counted. -/
  | overflow (s : σ)
  /-- The run goes on, but is told no further. -/
  | cut
  /-- A page was asked for and came, or its record was dropped. -/
  | page (rest : Trace σ)
  | record (r : Record) (s : σ) (rest : Trace σ)

namespace Trace

variable {σ : Type}

/-- The first trace is the second or a beginning of it. -/
inductive Le : Trace σ → Trace σ → Prop
  | cut (t : Trace σ) : Le cut t
  | finished (s : σ) : Le (finished s) (finished s)
  | failed (e : RestError) (s : σ) : Le (failed e s) (failed e s)
  | overflow (s : σ) : Le (overflow s) (overflow s)
  | page {t u : Trace σ} : Le t u → Le (page t) (page u)
  | record (r : Record) (s : σ) {t u : Trace σ} : Le t u → Le (record r s t) (record r s u)

instance : LE (Trace σ) := ⟨Le⟩

theorem le_refl : ∀ t : Trace σ, t ≤ t
  | finished s => .finished s
  | failed e s => .failed e s
  | overflow s => .overflow s
  | cut => .cut _
  | page t => .page (le_refl t)
  | record r s t => .record r s (le_refl t)

theorem le_of_eq {t u : Trace σ} (h : t = u) : t ≤ u := h ▸ le_refl t

theorem le_trans {t u v : Trace σ} (h₁ : t ≤ u) (h₂ : u ≤ v) : t ≤ v := by
  change Le t v
  induction h₁ generalizing v with
  | cut => exact .cut v
  | finished => exact h₂
  | failed | overflow => exact h₂
  | page _ ih => cases h₂ with | page h => exact .page (ih h)
  | record r s _ ih => cases h₂ with | record _ _ h => exact .record r s (ih h)

/-- One run after another: the second starts where the first finished. -/
def andThen : Trace σ → (σ → Trace σ) → Trace σ
  | finished s, next => next s
  | failed e s, _ => failed e s
  | overflow s, _ => overflow s
  | cut, _ => cut
  | page t, next => page (t.andThen next)
  | record r s t, next => record r s (t.andThen next)

@[simp] theorem finished_andThen (s : σ) (next : σ → Trace σ) : (finished s).andThen next = next s :=
  rfl

theorem andThen_finished (t : Trace σ) : t.andThen finished = t := by
  induction t with
  | finished | failed | overflow | cut => rfl
  | page _ ih => simp [andThen, ih]
  | record _ _ _ ih => simp [andThen, ih]

theorem andThen_assoc (t : Trace σ) (f g : σ → Trace σ) :
    (t.andThen f).andThen g = t.andThen fun s => (f s).andThen g := by
  induction t with
  | finished | failed | overflow | cut => rfl
  | page _ ih => simp [andThen, ih]
  | record _ _ _ ih => simp [andThen, ih]

theorem andThen_mono {t u : Trace σ} {f g : σ → Trace σ} (h : t ≤ u) (hf : ∀ s, f s ≤ g s) :
    t.andThen f ≤ u.andThen g := by
  change Le _ _
  induction h with
  | cut => exact .cut _
  | finished s => exact hf s
  | failed e s => exact .failed e s
  | overflow s => exact .overflow s
  | page _ ih => exact .page ih
  | record r s _ ih => exact .record r s ih

/-! ## What a caller sees of a trace -/

/-- The answers that a caller gets, each with the state when it gets it. -/
def answers : Trace σ → List (Move × σ)
  | finished s => [(.finished, s)]
  | failed e s => [(.failed e, s)]
  | overflow s => [(.overflow, s)]
  | cut => []
  | page t => t.answers
  | record r s t => (.record r, s) :: t.answers

theorem answers_prefix {t u : Trace σ} (h : t ≤ u) : t.answers <+: u.answers := by
  change Le t u at h
  induction h with
  | cut => exact List.nil_prefix
  | finished | failed | overflow => exact List.prefix_refl _
  | page _ ih => exact ih
  | record r s _ ih => exact List.cons_prefix_cons.2 ⟨rfl, ih⟩

end Trace

end MetaGraph

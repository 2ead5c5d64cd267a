/-
Decoding two structures that are related field by field. If each field's
decoder agrees on related values, so do the faults of single entries and the
structures that are put together.
-/
import Mathlib.Data.List.Forall2
import Mathlib.Data.Option.Defs
import MetaGraph.Decode.Shape

namespace MetaGraph

section Agree

variable {ε α β : Type}

/-- Both computations fail, or both give the same. -/
inductive Agree : Except ε α → Except ε α → Prop
  | error (e e' : ε) : Agree (.error e) (.error e')
  | ok (a : α) : Agree (.ok a) (.ok a)

namespace Agree

theorem refl : ∀ x : Except ε α, Agree x x
  | .error e => error e e
  | .ok a => ok a

theorem bind {x y : Except ε α} (h : Agree x y) {f g : α → Except ε β} (hf : ∀ a, Agree (f a) (g a)) :
    Agree (x >>= f) (y >>= g) := by
  cases h with
  | error e e' => exact error e e'
  | ok a => exact hf a

theorem map {x y : Except ε α} (h : Agree x y) (f : α → β) : Agree (x.map f) (y.map f) := by
  cases h with
  | error e e' => exact error e e'
  | ok a => exact ok (f a)

/-- What is done for each item agrees if it does for related items. -/
theorem forM {γ δ : Type} {R : γ → δ → Prop} {f : γ → Except ε Unit} {g : δ → Except ε Unit}
    (hf : ∀ a b, R a b → Agree (f a) (g b)) {as : List γ} {bs : List δ} (h : List.Forall₂ R as bs) :
    Agree (as.forM f) (bs.forM g) := by
  induction h with
  | nil => exact ok ()
  | cons first _ ih => exact (hf _ _ first).bind fun _ => ih

end Agree

end Agree

namespace KeyMap

/-- Maps that are related entry by entry. -/
def Related {α β : Type} (R : String → α → β → Prop) (m : KeyMap α) (m' : KeyMap β) : Prop :=
  List.Forall₂ (fun x y => x.1 = y.1 ∧ R x.1 x.2 y.2) m m'

theorem Related.get? {α β : Type} {R : String → α → β → Prop} {m : KeyMap α} {m' : KeyMap β}
    (h : Related R m m') (name : String) : Option.Rel (R name) (m.get? name) (m'.get? name) := by
  induction h with
  | nil => exact .none
  | @cons x y _ _ first _ ih =>
    obtain ⟨k, v⟩ := x
    obtain ⟨k', w⟩ := y
    obtain ⟨rfl, related⟩ := first
    simp only [KeyMap.get?, List.lookup_cons]
    by_cases hk : name = k
    · subst hk
      simpa using Option.Rel.some related
    · rw [beq_false_of_ne hk]
      exact ih

end KeyMap

/-- A decoder agrees on what is related. -/
def Decoder.AgreesOn {α : Type} (R : Datum → Datum → Prop) (item : Decoder α) : Prop :=
  ∀ d d', R d d' → Agree (item .json d) (item .json d')

namespace Shape

variable {α β : Type} {R : String → Datum → Datum → Prop}

/-- The fields that are given are related, and both structures lack the same ones. -/
structure SourcesRelated (R : String → Datum → Datum → Prop) (source source' : FieldSource) : Prop where
  origin : source.origin = .json
  origin' : source'.origin = .json
  given : ∀ i name, Option.Rel (R name) (source.given i name) (source'.given i name)

/-- A structure is decoded alike out of related fields. -/
structure AgreesOn (R : String → Datum → Datum → Prop) (s : Shape α) : Prop where
  check : ∀ name d d', R name d d' → Agree (s.check .json name d) (s.check .json name d')
  build : ∀ source source', SourcesRelated R source source' → ∀ start,
    Agree (s.build source start) (s.build source' start)

theorem agreesOn_done (a : α) : (done a).AgreesOn R :=
  ⟨fun _ _ _ _ => .ok (), fun _ _ _ _ => .ok a⟩

section Field

variable {s : Shape (β → α)} {name : String} {item : Decoder β}

theorem AgreesOn.andField (h : s.AgreesOn R) (hi : item.AgreesOn (R name)) (fallback : Option β) :
    (s.andField name item fallback).AgreesOn R where
  check entry d d' hd := by
    refine (h.check entry d d' hd).bind fun _ => ?_
    unfold checkField
    split
    · rename_i he
      exact (hi d d' (he ▸ hd)).map _
    · exact .ok ()
  build source source' hs start := by
    refine (h.build source source' hs start).bind fun f => ?_
    have given := hs.given (start + s.names.length) name
    simp only [hs.origin, hs.origin']
    cases hd : source.given (start + s.names.length) name with
    | none =>
      rw [hd] at given
      cases hd' : source'.given (start + s.names.length) name with
      | some d' =>
        rw [hd'] at given
        cases given
      | none =>
        cases fallback with
        | some b => exact .ok (f b)
        | none => exact .error _ _
    | some d =>
      rw [hd] at given
      cases hd' : source'.given (start + s.names.length) name with
      | none =>
        rw [hd'] at given
        cases given
      | some d' =>
        rw [hd'] at given
        cases given with
        | some related => exact (hi d d' related).map f

theorem AgreesOn.required (h : s.AgreesOn R) (hi : item.AgreesOn (R name)) :
    (s.required name item).AgreesOn R :=
  h.andField hi none

theorem AgreesOn.optional (h : s.AgreesOn R) (hi : item.AgreesOn (R name)) (value : β) :
    (s.optional name item value).AgreesOn R :=
  h.andField hi (some value)

end Field

/-- Tables that are related entry by entry are decoded alike. -/
theorem AgreesOn.ofEntries {s : Shape α} (h : s.AgreesOn R) {entries entries' : List (String × Datum)}
    (related : KeyMap.Related R entries entries') :
    Agree (s.ofEntries .json entries) (s.ofEntries .json entries') := by
  refine Agree.bind (Agree.forM (fun x y hxy => ?_) related) fun _ => ?_
  · obtain ⟨k, d⟩ := x
    obtain ⟨k', d'⟩ := y
    obtain ⟨rfl, hd⟩ := hxy
    exact h.check k d d' hd
  · exact h.build _ _ ⟨rfl, rfl, fun _ name => related.get? name⟩ 0

end Shape

end MetaGraph

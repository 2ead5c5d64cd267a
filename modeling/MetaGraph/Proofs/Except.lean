/-
Computations that can fail, taken apart once they did not.
-/
namespace MetaGraph

variable {ε α β : Type}

instance decidableEqExcept [DecidableEq ε] [DecidableEq α] : DecidableEq (Except ε α)
  | .error e, .error e' => decidable_of_iff (e = e') (by simp)
  | .ok a, .ok a' => decidable_of_iff (a = a') (by simp)
  | .error _, .ok _ | .ok _, .error _ => .isFalse nofun

theorem except_eq_ok_of_toOption {e : Except ε α} {a : α} (h : e.toOption = some a) : e = .ok a := by
  cases e <;> cases h
  rfl

theorem exists_eq_ok_of_isOk {e : Except ε α} (h : e.isOk = true) : ∃ a, e = .ok a := by
  cases e with
  | ok a => exact ⟨a, rfl⟩
  | error e => cases h

theorem except_seq_ok {x y : Except ε Unit} :
    (x >>= fun _ => y) = .ok () ↔ x = .ok () ∧ y = .ok () := by
  cases x with
  | error e => exact ⟨nofun, fun h => h.1⟩
  | ok => exact ⟨fun h => ⟨rfl, h⟩, fun h => h.2⟩

theorem except_bind_ok {x : Except ε α} {f : α → Except ε β} {b : β} :
    x >>= f = .ok b ↔ ∃ a, x = .ok a ∧ f a = .ok b := by
  cases x with
  | error e => exact ⟨nofun, fun ⟨_, h, _⟩ => nomatch h⟩
  | ok a => exact ⟨fun h => ⟨a, rfl, h⟩, by rintro ⟨_, ⟨⟩, h⟩; exact h⟩

theorem except_map_ok {x : Except ε α} {f : α → β} {b : β} : x.map f = .ok b ↔ ∃ a, x = .ok a ∧ f a = b := by
  cases x with
  | error e => exact ⟨nofun, fun ⟨_, h, _⟩ => nomatch h⟩
  | ok a => exact ⟨by rintro ⟨⟩; exact ⟨a, rfl, rfl⟩, by rintro ⟨_, ⟨⟩, rfl⟩; rfl⟩

theorem except_mapError_ok {δ : Type} {x : Except ε α} {f : ε → δ} {a : α} :
    x.mapError f = .ok a ↔ x = .ok a := by
  cases x with
  | error e => exact ⟨nofun, nofun⟩
  | ok b => exact ⟨by rintro ⟨⟩; rfl, by rintro ⟨⟩; rfl⟩

theorem map_mapM_ok {γ : Type} {f : α → Except ε β} {g : α → γ} {k : β → γ}
    (hf : ∀ a b, f a = .ok b → k b = g a) {as : List α} {bs : List β} (h : as.mapM f = .ok bs) :
    bs.map k = as.map g := by
  induction as generalizing bs with
  | nil =>
    cases h
    rfl
  | cons a as ih =>
    rw [List.mapM_cons, except_bind_ok] at h
    obtain ⟨first, ha, h⟩ := h
    obtain ⟨rest, hr, h⟩ := except_bind_ok.1 h
    cases h
    rw [List.map_cons, List.map_cons, hf a first ha, ih hr]

theorem length_of_mapM_ok {f : α → Except ε β} {as : List α} {bs : List β} (h : as.mapM f = .ok bs) :
    bs.length = as.length := by
  simpa using congrArg List.length (map_mapM_ok (k := fun _ => ()) (g := fun _ => ()) (fun _ _ _ => rfl) h)

theorem exists_of_mapM_ok {f : α → Except ε β} {as : List α} {bs : List β} (h : as.mapM f = .ok bs) {a : α}
    (ha : a ∈ as) : ∃ b ∈ bs, f a = .ok b := by
  have each : bs.map Except.ok = as.map f := map_mapM_ok (fun _ _ => Eq.symm) h
  have mapped : f a ∈ bs.map Except.ok := each ▸ List.mem_map_of_mem ha
  obtain ⟨b, hb, same⟩ := List.mem_map.1 mapped
  exact ⟨b, hb, same.symm⟩

theorem mem_mapM_ok {f : α → Except ε β} : ∀ {as : List α} {bs : List β},
    as.mapM f = .ok bs → ∀ b ∈ bs, ∃ a ∈ as, f a = .ok b
  | [], bs, h, b, hb => by
    cases h
    cases hb
  | a :: as, bs, h, b, hb => by
    rw [List.mapM_cons, except_bind_ok] at h
    obtain ⟨first, hf, h⟩ := h
    obtain ⟨rest, hr, h⟩ := except_bind_ok.1 h
    cases h
    rcases List.mem_cons.1 hb with rfl | hb
    · exact ⟨a, List.mem_cons_self, hf⟩
    · obtain ⟨a', ha, hf⟩ := mem_mapM_ok hr b hb
      exact ⟨a', List.mem_cons_of_mem a ha, hf⟩

end MetaGraph

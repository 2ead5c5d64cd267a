/-
The settings that environment variables make: a tree of tables in order, with
the value of each variable at the path its name spells.
-/
import MetaGraph.Config.Environment
import MetaGraph.Proofs.Config.Overlay
import Mathlib.Data.List.Induction

namespace MetaGraph.Environment

/-! ## Values -/

theorem isTable_bare (cs : List Char) : (bare cs).isTable = false := by
  unfold bare
  dsimp only
  split
  · split
    · rfl
    · split
      · rfl
      · split <;> rfl
  · split
    · rfl
    · split <;> rfl

theorem ordered_spaced {found : Option (Datum × List Char)} {d : Datum} {rest : List Char}
    (h : (found.bind fun x => some (x.1, skipSpaces x.2)) = some (d, rest))
    (given : ∀ x, found = some x → x.1.Ordered) : d.Ordered := by
  obtain ⟨x, hx, h⟩ := Option.bind_eq_some_iff.1 h
  cases h
  exact given x hx

/-- Values, and the entries between braces, of which those that are read already are given. -/
theorem ordered_value (fuel : Nat) :
    (∀ {cs d rest}, value? fuel cs = some (d, rest) → d.Ordered) ∧
    ∀ {acc cs entries rest}, (Datum.table acc).Ordered → entries? fuel acc cs = some (entries, rest) →
      (Datum.table entries).Ordered := by
  induction fuel with
  | zero => exact ⟨nofun, nofun⟩
  | succ fuel ih =>
    obtain ⟨values, tables⟩ := ih
    constructor
    · intro cs d rest h
      rw [value?] at h
      dsimp only at h
      split at h
      · exact ordered_spaced h fun x hx => by
          cases hx
          exact Datum.ordered_of_not_table rfl
      · exact ordered_spaced h fun x hx => by
          cases hx
          exact Datum.ordered_of_not_table rfl
      · split at h
        · refine ordered_spaced h fun x hx => ?_
          obtain ⟨⟨entries, rest'⟩, he, rfl⟩ := Option.map_eq_some_iff.1 hx
          exact tables Datum.ordered_empty he
        · refine ordered_spaced h fun x hx => ?_
          obtain ⟨⟨items, rest'⟩, -, rfl⟩ := Option.map_eq_some_iff.1 hx
          exact Datum.ordered_of_not_table rfl
        · refine ordered_spaced h fun x hx => ?_
          obtain ⟨⟨s, rest'⟩, -, rfl⟩ := Option.map_eq_some_iff.1 hx
          exact Datum.ordered_of_not_table rfl
        · exact ordered_spaced h fun x hx => by
            cases hx
            exact Datum.ordered_of_not_table rfl
        · cases h
        · exact ordered_spaced h fun x hx => by
            cases hx
            exact Datum.ordered_of_not_table (isTable_bare _)
    · intro acc cs entries rest ha h
      unfold entries? at h
      split at h
      · cases h
      · cases h
        exact ha
      · rename_i fuel' same _
        cases same
        obtain ⟨⟨key, rest₁⟩, -, h⟩ := Option.bind_eq_some_iff.1 h
        obtain ⟨rest₂, -, h⟩ := Option.bind_eq_some_iff.1 h
        obtain ⟨⟨d, rest₃⟩, hd, h⟩ := Option.bind_eq_some_iff.1 h
        have more := Datum.ordered_insert ha (values hd) key
        dsimp only at h
        split at h
        · exact tables more h
        · cases h
          exact more
        · cases h

theorem ordered_parse (s : String) : (parse s).Ordered := by
  rw [parse]
  split
  · rename_i d read
    exact (ordered_value _).1 read
  · exact Datum.ordered_of_not_table rfl

/-! ## Variables -/

theorem ordered_nest {d : Datum} (h : d.Ordered) (steps : List String) : (nest steps d).Ordered := by
  induction steps with
  | nil => exact h
  | cons step steps ih => exact Datum.ordered_singleton ih step

theorem divide_ne_nil (cs : List Char) : divide cs ≠ [] := by
  unfold divide
  split
  · exact List.cons_ne_nil _ _
  · split
    · exact List.cons_ne_nil _ _
    · split <;> exact List.cons_ne_nil _ _
  · exact List.cons_ne_nil _ _

theorem path?_ne_nil {name : String} {steps : List String} (h : path? name = some steps) : steps ≠ [] := by
  unfold path? at h
  dsimp only at h
  split at h
  · split at h
    · cases h
    · cases h
      intro none
      exact divide_ne_nil _ (List.map_eq_nil_iff.1 none)
  · cases h

theorem settings_append (vars : List (String × String)) (name value : String) :
    settings (vars ++ [(name, value)]) =
      match path? name with
      | some steps => Datum.overlay (settings vars) (nest steps (parse (Text.trim value)))
      | none => settings vars := by
  rw [settings, List.foldl_append]
  rfl

theorem ordered_settings (vars : List (String × String)) : (settings vars).Ordered := by
  induction vars using List.reverseRecOn with
  | nil => exact Datum.ordered_empty
  | append_singleton vars var ih =>
    rw [settings_append]
    split
    · exact Datum.ordered_overlay ih (ordered_nest (ordered_parse _) _)
    · exact ih

theorem settings_eq_table (vars : List (String × String)) : ∃ entries, settings vars = .table entries := by
  induction vars using List.reverseRecOn with
  | nil => exact ⟨[], rfl⟩
  | append_singleton vars var ih =>
    obtain ⟨entries, he⟩ := ih
    rw [settings_append, he]
    split
    · rename_i steps counts
      obtain ⟨step, steps, rfl⟩ := List.exists_cons_of_ne_nil (path?_ne_nil counts)
      exact ⟨_, Datum.overlay_tables _ _⟩
    · exact ⟨entries, rfl⟩

end MetaGraph.Environment

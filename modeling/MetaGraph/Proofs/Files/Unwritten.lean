/-
Directories are made and cleared without writing a file: every file that
stands somewhere afterwards stood there before, with the same content.
-/
import MetaGraph.Component.BulkLoader
import MetaGraph.Proofs.Except
import MetaGraph.Proofs.Files.Way

namespace MetaGraph

namespace FileStore

/-- Every file of the second store is one of the first, with its content. -/
def Unwritten (s s' : FileStore) : Prop :=
  ∀ p content, s'.entry? p = some (.file content) → s.entry? p = some (.file content)

variable {s s' : FileStore}

theorem Unwritten.refl (s : FileStore) : s.Unwritten s := fun _ _ => id

theorem Unwritten.trans {s'' : FileStore} (h : s.Unwritten s') (h' : s'.Unwritten s'') : s.Unwritten s'' :=
  fun p content hp => h p content (h' p content hp)

theorem unwritten_put (s : FileStore) (p : Place) : s.Unwritten (s.put p .directory) := by
  intro q content hq
  by_cases h : q = p
  · subst h
    by_cases root : q = []
    · simp [FileStore.entry?, root] at hq
    · rw [entry?_put_self s root] at hq
      cases hq
  · rwa [entry?_put_other s h] at hq

theorem unwritten_removeTree {path : String} (h : s.removeTree path = .ok s') : s.Unwritten s' := by
  obtain ⟨⟨p, _ | _⟩, -, h⟩ := except_bind_ok.1 h
  · cases h
    intro q content hq
    by_cases root : q = []
    · simp [FileStore.entry?, root] at hq
    · have kept := lookup_filter (fun q => q ≠ p && !isBelow p q) q s.entries
      simp only [FileStore.entry?, root, if_false] at hq ⊢
      rw [kept] at hq
      split at hq
      · exact hq
      · cases hq
  · cases h

theorem unwritten_makeSteps {p : Place} {steps : List String} (h : s.makeSteps p steps = .ok s') :
    s.Unwritten s' := by
  induction steps generalizing s p with
  | nil =>
    rw [makeSteps] at h
    split at h
    · cases h
      exact .refl _
    · cases h
    · cases h
      exact unwritten_put _ p
  | cons step rest ih =>
    rw [makeSteps] at h
    split at h
    · cases h
    · have made : s.Unwritten (if (s.entry? p).isNone then s.put p .directory else s) := by
        split
        · exact s.unwritten_put p
        · exact .refl s
      dsimp only at h
      split at h
      · exact made.trans (ih h)
      split at h
      · exact made.trans (ih h)
      split at h
      · cases h
      · exact made.trans (ih h)

theorem unwritten_makeDirectories {path : String} (h : s.makeDirectories path = .ok s') : s.Unwritten s' := by
  by_cases given : path = ""
  · rw [makeDirectories, if_pos given] at h
    cases h
    exact .refl _
  · exact unwritten_makeSteps (makeSteps_of_makeDirectories given h).2.2

end FileStore

namespace BulkFiles

theorem unwritten_prepareDirectory {scope path : String} {force : Bool} {s s' : FileStore}
    (h : prepareDirectory scope force s path = .ok s') : s.Unwritten s' := by
  unfold prepareDirectory at h
  dsimp only at h
  have created {cleared : FileStore} {fault : FileError → ConfigError}
      (h : (cleared.makeDirectories path).mapError fault = .ok s') : cleared.Unwritten s' :=
    FileStore.unwritten_makeDirectories (except_mapError_ok.1 h)
  split at h
  · obtain ⟨names, -, h⟩ := except_bind_ok.1 h
    split at h
    · exact created h
    split at h
    · obtain ⟨cleared, hc, h⟩ := except_bind_ok.1 h
      exact (FileStore.unwritten_removeTree (except_mapError_ok.1 hc)).trans (created h)
    · cases h
  · exact created h

/-- The sink makes its directories ready without writing a file, whether it succeeds or not. -/
theorem unwritten_prepare (scope : Scope) (c : BulkLoaderConfig) (s : FileStore) :
    s.Unwritten (prepare scope c s).2 := by
  rw [prepare]
  split
  · exact .refl s
  split
  · exact .refl s
  split
  · exact .refl s
  rename_i s₁ h₁
  split
  · exact unwritten_prepareDirectory h₁
  split
  · exact unwritten_prepareDirectory h₁
  · rename_i s₂ h₂
    exact (unwritten_prepareDirectory h₁).trans (unwritten_prepareDirectory h₂)

end BulkFiles

end MetaGraph

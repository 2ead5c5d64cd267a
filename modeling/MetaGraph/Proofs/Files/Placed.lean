/-
Where the files of a directory come to stand. Files are written and nothing
else: no directory appears or goes, and a path that led somewhere still leads
there. A name without a slash is a name in its directory; one with a slash
is a path through directories in it, and cannot be written if it holds none.
-/
import MetaGraph.Proofs.Files.Directory

namespace MetaGraph.FileStore

variable {s s' : FileStore} {p : Place}

theorem put_put (s : FileStore) (p : Place) (e e' : Entry) : FileStore.put (s.put p e) p e' = s.put p e' := by
  simp [put, List.filter_filter]

/-! ## Writing files -/

/-- Files were written, and no directory was made or removed. -/
structure FilesWritten (s s' : FileStore) : Prop where
  home : s'.home = s.home
  directory : ∀ p, s'.entry? p = some .directory ↔ s.entry? p = some .directory
  stays : ∀ p, (s.entry? p).isSome → (s'.entry? p).isSome

theorem FilesWritten.refl (s : FileStore) : s.FilesWritten s := ⟨rfl, fun _ => .rfl, fun _ => id⟩

theorem FilesWritten.put (h : s.FilesWritten s') (hp : s'.entry? p ≠ some .directory) (content : Bytes) :
    s.FilesWritten (s'.put p (.file content)) := by
  refine ⟨h.home, fun q => ?_, fun q hq => ?_⟩
  all_goals
    by_cases hqp : q = p
  · subst hqp
    have root : q ≠ [] := by
      rintro rfl
      exact hp rfl
    rw [entry?_put_self _ root, ← h.directory]
    exact iff_of_false nofun hp
  · rw [entry?_put_other _ hqp, h.directory]
  · subst hqp
    have root : q ≠ [] := by
      rintro rfl
      exact hp rfl
    rw [entry?_put_self _ root]
    rfl
  · rw [entry?_put_other _ hqp]
    exact h.stays q hq

theorem FilesWritten.keeps (h : s.FilesWritten s') : Keeps s s' := ⟨h.home, (h.directory _).2⟩

theorem FilesWritten.keeps_back (h : s.FilesWritten s') : Keeps s' s := ⟨h.home.symm, (h.directory _).1⟩

/-- What could be written can still be written. -/
theorem FilesWritten.writable (h : s.FilesWritten s') {path : String} (hw : s.writable path = .ok p) :
    s'.writable path = .ok p := by
  obtain ⟨hr, flat⟩ := resolve_of_writable hw
  refine except_bind_ok.2 ⟨p, h.keeps.resolve hr, ?_⟩
  obtain ⟨q, hq, hw⟩ := except_bind_ok.1 hw
  obtain rfl : p = q := Except.ok.inj (hr.symm.trans hq)
  cases he : s'.entry? p with
  | some e =>
    cases e with
    | directory => exact absurd ((h.directory p).1 he) flat
    | file content => rfl
  | none =>
    have none : s.entry? p = none := by
      cases hs : s.entry? p with
      | none => rfl
      | some e =>
        have := h.stays p (by rw [hs]; rfl)
        rw [he] at this
        cases this
    rw [none] at hw
    dsimp only at hw ⊢
    split at hw
    · cases hw
    rw [if_neg ‹_›]
    cases hd : s.entry? p.dropLast with
    | none =>
      rw [hd] at hw
      cases hw
    | some e =>
      cases e with
      | directory => rw [(h.directory _).2 hd]; rfl
      | file content =>
        rw [hd] at hw
        cases hw

/-! ## Names in a directory -/

/-- The files that are named after `stem` stand in the directory itself: their names are no paths,
or there is no directory that such a path could lead through. -/
def InPlace (s : FileStore) (dir stem : String) : Prop :=
  '/' ∉ stem.toList ∨ ∀ q, s.LeadsTo dir q → ∀ name, s.entry? (q ++ [name]) ≠ some .directory

/-- Where a file below a directory can be written, there is the directory. -/
theorem leadsTo_of_resolve_join {dir name last : String} (given : dir ≠ "")
    (hl : (Text.splitOn '/' name).getLast? = some last) (hs : Path.isStep last = true)
    (some : Path.components name ≠ []) (h : s.resolve (Path.join dir name) = .ok p) :
    ∃ q, s.LeadsTo dir q ∧ s.follow q (Path.components name) = .ok p := by
  rw [resolve] at h
  split at h
  · cases h
  split at h
  · cases h
  rename_i clean
  rw [Path.steps_join given hl hs, follow_append, Path.isAbsolute_join given] at h
  cases hq : s.follow (if Path.isAbsolute dir then [] else s.home) (Path.components dir) with
  | error e =>
    rw [hq] at h
    cases h
  | ok q =>
    rw [hq] at h
    refine ⟨q, ⟨given, fun hn => clean ?_, ?_, hq⟩, h⟩
    · rw [Path.join]
      split <;> simp [hn]
    · obtain ⟨first, rest, hc⟩ := List.exists_cons_of_ne_nil some
      simp only [Except.bind, hc, FileStore.follow] at h
      split at h
      · cases h
      · cases h
      · assumption

/-- A file is written in its directory, under its own name. -/
theorem place_of_writable_join {dir name : String} {c : Char} {cs front ending : List Char}
    (given : dir ≠ "") (hn : name.toList = c :: cs) (he : name.toList = front ++ ending) (hc : c ≠ '/')
    (hd : c ≠ '.') (hs : '/' ∉ ending) (hlen : 2 ≤ ending.length)
    (inPlace : '/' ∉ name.toList ∨ ∀ q, s.LeadsTo dir q → ∀ other, s.entry? (q ++ [other]) ≠ some .directory)
    (h : s.writable (Path.join dir name) = .ok p) : ∃ q, s.LeadsTo dir q ∧ p = q ++ [name] := by
  obtain ⟨⟨last, hl, step⟩, hcomp⟩ := Path.components_name hn he hc hd hs hlen
  have some : Path.components name ≠ [] := by
    rcases hcomp with ⟨-, single, -⟩ | ⟨first, second, rest, several, -⟩
    · simp [single]
    · simp [several]
  obtain ⟨q, leads, follow⟩ := leadsTo_of_resolve_join given hl step some (resolve_of_writable h).1
  refine ⟨q, leads, ?_⟩
  rcases hcomp with ⟨-, single, move⟩ | ⟨first, second, rest, several, move⟩
  · simp only [single, FileStore.follow, leads.directory, if_neg move.1, if_neg move.2] at follow
    split at follow
    · cases follow
    · exact (Except.ok.inj follow).symm
  · -- A path of several steps leads through a directory in the directory.
    rcases inPlace with plain | flat
    · have : Path.components name = [name].filter Path.isStep := by
        rw [Path.components_eq, Text.splitChars_of_notMem plain, List.map_singleton, String.ofList_toList]
      rw [this] at several
      have := congrArg List.length several
      have := List.length_filter_le Path.isStep [name]
      simp at *
      omega
    · exact absurd h (not_writable_of_steps leads hl step several move (flat q leads first) p)

end MetaGraph.FileStore

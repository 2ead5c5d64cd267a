/-
Files in a directory. A file is written below the place that the path of the
directory leads to, and found there again; other files that are written in
the meantime do not change where paths lead, since they stand where nothing
stood before.
-/
import MetaGraph.Files.Store
import MetaGraph.Proofs.Except
import MetaGraph.Proofs.Files.Path

namespace MetaGraph.FileStore

variable {s s' : FileStore}

/-! ## Entries -/

theorem entry?_put_self (s : FileStore) {p : Place} (h : p ≠ []) (e : Entry) :
    FileStore.entry? (s.put p e) p = some e := by
  simp [FileStore.entry?, put, h]

/-- What is kept by its place alone is found where it stood. -/
theorem lookup_filter (keep : Place → Bool) (p : Place) (entries : List (Place × Entry)) :
    (entries.filter fun x => keep x.1).lookup p = if keep p then entries.lookup p else none := by
  induction entries with
  | nil => simp
  | cons x rest ih =>
    obtain ⟨place, e⟩ := x
    by_cases hp : p = place
    · subst hp
      cases hk : keep p <;> simp [hk, ih]
    · have other : (p == place) = false := by simpa using hp
      cases hk : keep place <;> simp [hk, ih, List.lookup_cons, other]

theorem entry?_put_other (s : FileStore) {p q : Place} (h : q ≠ p) (e : Entry) :
    FileStore.entry? (s.put p e) q = s.entry? q := by
  have other : (q == p) = false := by simpa using h
  have kept := lookup_filter (fun place => decide (place ≠ p)) q s.entries
  simp only [decide_eq_true h, if_true] at kept
  simp only [FileStore.entry?, put, List.lookup_cons, other, kept]

theorem append_eq_put {p : Place} {old : Bytes} (h : s.entry? p = some (.file old))
    (content : Bytes) : s.append p content = s.put p (.file (old ++ content)) := by
  rw [append, h]

/-! ## The names in a directory -/

/-- The name of a place in a directory, if it stands there. -/
def nameIn? (dir p : Place) : Option String :=
  if p.length = dir.length + 1 && p.take dir.length = dir then p.getLast? else none

theorem nameIn?_eq_some_iff {dir p : Place} {name : String} :
    nameIn? dir p = some name ↔ p = dir ++ [name] := by
  constructor
  · intro h
    rw [nameIn?] at h
    split at h
    · rename_i hp
      simp only [Bool.and_eq_true, decide_eq_true_eq] at hp
      obtain ⟨front, rfl⟩ := List.getLast?_eq_some_iff.1 h
      have hlen : front.length = dir.length := by simpa using hp.1
      rw [← hlen, List.take_left'] at hp
      · rw [hp.2]
      · rfl
    · cases h
  · rintro rfl
    simp [nameIn?]

theorem namesIn_eq (s : FileStore) (dir : Place) :
    s.namesIn dir = s.entries.filterMap fun x => nameIn? dir x.1 := rfl

/-- A directory holds the names at which something stands. -/
theorem mem_namesIn {dir : Place} {name : String} :
    name ∈ s.namesIn dir ↔ (s.entry? (dir ++ [name])).isSome := by
  have hne : dir ++ [name] ≠ [] := by simp
  rw [namesIn_eq, entry?, if_neg hne]
  induction s.entries with
  | nil => simp
  | cons x rest ih =>
    obtain ⟨p, e⟩ := x
    rw [List.lookup_cons, List.filterMap_cons]
    by_cases hp : dir ++ [name] = p
    · have : nameIn? dir p = some name := nameIn?_eq_some_iff.2 hp.symm
      simp [this, hp]
    · have other : (dir ++ [name] == p) = false := by simpa using hp
      rw [other]
      have hn : nameIn? dir p ≠ some name := fun h => hp (nameIn?_eq_some_iff.1 h).symm
      cases hd : nameIn? dir p with
      | none => simpa [hd] using ih
      | some n =>
        have : name ≠ n := by
          rintro rfl
          exact hn hd
        simpa [hd, this] using ih

/-- No name stands twice in a directory, and none comes to stand there twice. -/
theorem nodup_namesIn_put {dir : Place} (h : (s.namesIn dir).Nodup) (p : Place) (e : Entry) :
    ((s.put p e).namesIn dir).Nodup := by
  have sub : ((s.entries.filter fun x => x.1 ≠ p).filterMap fun x => nameIn? dir x.1).Sublist
      (s.namesIn dir) := List.filter_sublist.filterMap _
  rw [namesIn_eq, put, List.filterMap_cons]
  cases hp : nameIn? dir p with
  | none => exact h.sublist sub
  | some name =>
    refine List.nodup_cons.2 ⟨fun hm => ?_, h.sublist sub⟩
    obtain ⟨x, hx, hn⟩ := List.mem_filterMap.1 hm
    have : x.1 = p := (nameIn?_eq_some_iff.1 hn).trans (nameIn?_eq_some_iff.1 hp).symm
    simp [this] at hx

/-! ## Where paths lead -/

/-- Whatever is a directory in the first store is one in the second, and paths start from the
same place. -/
structure Keeps (s s' : FileStore) : Prop where
  home : s'.home = s.home
  directory : ∀ {p}, s.entry? p = some .directory → s'.entry? p = some .directory

theorem Keeps.refl (s : FileStore) : Keeps s s := ⟨rfl, id⟩

theorem Keeps.trans {s'' : FileStore} (h : Keeps s s') (h' : Keeps s' s'') : Keeps s s'' :=
  ⟨h'.home.trans h.home, fun hp => h'.directory (h.directory hp)⟩

theorem keeps_put {p : Place} (h : s.entry? p ≠ some .directory) (content : Bytes) :
    Keeps s (s.put p (.file content)) := by
  refine ⟨rfl, fun {q} hq => ?_⟩
  have : q ≠ p := by
    rintro rfl
    exact h hq
  rw [entry?_put_other s this, hq]

theorem follow_append (s : FileStore) (p : Place) (front back : List String) :
    s.follow p (front ++ back) = (s.follow p front).bind (s.follow · back) := by
  induction front generalizing p with
  | nil => rfl
  | cons step front ih =>
    simp only [List.cons_append, follow, ih]
    split
    · rfl
    · rfl
    · split
      · rfl
      · split
        · rfl
        · split <;> rfl

theorem Keeps.follow (hk : Keeps s s') {steps : List String} {p q : Place}
    (h : s.follow p steps = .ok q) : s'.follow p steps = .ok q := by
  induction steps generalizing p with
  | nil => exact h
  | cons step steps ih =>
    simp only [FileStore.follow] at h ⊢
    split at h
    · cases h
    · cases h
    · rename_i hp
      rw [hk.directory hp]
      dsimp only
      split at h
      · rw [if_pos ‹_›, ih h]
      · rw [if_neg ‹_›]
        split at h
        · rw [if_pos ‹_›, ih h]
        · rw [if_neg ‹_›]
          split at h
          · cases h
          · rw [if_neg ‹_›, ih h]

/-- A path leads to a directory, by its components. -/
structure LeadsTo (s : FileStore) (path : String) (p : Place) : Prop where
  given : path ≠ ""
  clean : '\x00' ∉ path.toList
  directory : s.entry? p = some .directory
  follow : s.follow (if Path.isAbsolute path then [] else s.home) (Path.components path) = .ok p

theorem leadsTo_of_find {path : String} {p : Place} (h : s.find path = .ok (p, .directory)) :
    s.LeadsTo path p := by
  simp only [find, resolve, bind, Except.bind] at h
  split at h
  · cases h
  rename_i q hq
  split at hq
  · cases hq
  split at hq
  · cases hq
  rename_i given clean
  split at h
  · rename_i e he
    cases h
    refine ⟨given, by simpa using clean, he, ?_⟩
    -- A slash at the end is one more step, which stays in the directory.
    rcases Path.steps_eq path with hs | hs
    · rw [← hs, hq]
    · rw [hs, follow_append] at hq
      cases hf : s.follow (if Path.isAbsolute path then [] else s.home) (Path.components path) with
      | error e =>
        rw [hf] at hq
        cases hq
      | ok q =>
        rw [hf] at hq
        simp only [Except.bind, FileStore.follow] at hq
        split at hq
        · cases hq
        · cases hq
        · rw [if_pos trivial] at hq
          exact hq
  · cases h

theorem LeadsTo.find {path : String} {p : Place} (h : s.LeadsTo path p) :
    s.find path = .ok (p, .directory) := by
  have clean : path.toList.contains '\x00' = false := by simpa using h.clean
  have steps : s.follow (if Path.isAbsolute path then [] else s.home) (Path.steps path) = .ok p := by
    rcases Path.steps_eq path with hs | hs
    · rw [hs, h.follow]
    · rw [hs, follow_append, h.follow]
      simp [Except.bind, FileStore.follow, h.directory]
  rw [FileStore.find, resolve, if_neg h.given, clean, if_neg (by decide), steps]
  simp only [bind, Except.bind, h.directory]
  rfl

theorem LeadsTo.mono {path : String} {p : Place} (h : s.LeadsTo path p) (hk : Keeps s s') :
    s'.LeadsTo path p := by
  refine ⟨h.given, h.clean, hk.directory h.directory, ?_⟩
  rw [hk.home]
  exact hk.follow h.follow

/-! ## Names below a directory -/

/-- The name of a file: one step, which is neither a move nor too long. -/
structure IsName (name : String) : Prop where
  components : Path.components name = [name]
  last : (Text.splitOn '/' name).getLast? = some name
  step : Path.isStep name = true
  move : name ≠ "." ∧ name ≠ ".."
  clean : '\x00' ∉ name.toList
  short : name.utf8ByteSize ≤ maxName

variable {dir name : String} {p : Place}

theorem resolve_join (h : s.LeadsTo dir p) {last : String}
    (hl : (Text.splitOn '/' name).getLast? = some last) (hs : Path.isStep last = true) :
    s.resolve (Path.join dir name) =
      if '\x00' ∈ name.toList then .error .nulInName else s.follow p (Path.components name) := by
  obtain ⟨front, hj, -, -⟩ := Path.join_toList h.given name
  have given : Path.join dir name ≠ "" := by
    intro he
    rw [he] at hj
    simp at hj
  have clean : (Path.join dir name).toList.contains '\x00' = decide ('\x00' ∈ name.toList) := by
    have hc := h.clean
    rw [Path.join]
    split <;> simp [hc]
  rw [resolve, if_neg given, clean, Path.steps_join h.given hl hs, follow_append,
    Path.isAbsolute_join h.given, h.follow]
  by_cases hn : '\x00' ∈ name.toList
  · simp [hn]
  · simp [hn, Except.bind]

/-- What stands in a directory is found by its name. -/
theorem find_join (h : s.LeadsTo dir p) (hn : IsName name) {e : Entry}
    (he : s.entry? (p ++ [name]) = some e) : s.find (Path.join dir name) = .ok (p ++ [name], e) := by
  have follow : s.follow p [name] = .ok (p ++ [name]) := by
    have short := hn.short
    simp only [FileStore.follow, h.directory, if_neg hn.move.1, if_neg hn.move.2]
    rw [if_neg (by omega)]
  rw [find, resolve_join h hn.last hn.step, if_neg hn.clean, hn.components, follow]
  simp only [bind, Except.bind, he]
  rfl

/-- A name of several steps would need a directory in the directory. -/
theorem not_writable_of_steps (h : s.LeadsTo dir p) {last first second : String} {rest : List String}
    (hl : (Text.splitOn '/' name).getLast? = some last) (hs : Path.isStep last = true)
    (hc : Path.components name = first :: second :: rest) (hf : first ≠ "." ∧ first ≠ "..")
    (flat : s.entry? (p ++ [first]) ≠ some .directory) (place : Place) :
    s.writable (Path.join dir name) ≠ .ok place := by
  intro hw
  rw [writable, resolve_join h hl hs, hc] at hw
  split at hw
  · cases hw
  simp only [FileStore.follow, h.directory, if_neg hf.1, if_neg hf.2] at hw
  split at hw
  · cases hw
  cases hd : s.entry? (p ++ [first]) with
  | none =>
    simp only [hd] at hw
    cases hw
  | some e =>
    cases e with
    | directory => exact absurd hd flat
    | file content =>
      simp only [hd] at hw
      cases hw

/-- A name of one step is written in the directory, where no directory has that name. -/
theorem place_of_writable (h : s.LeadsTo dir p) (whole : Text.splitOn '/' name = [name])
    (hs : Path.isStep name = true) (hc : Path.components name = [name]) (hm : name ≠ "." ∧ name ≠ "..")
    (flat : s.entry? (p ++ [name]) ≠ some .directory) {place : Place}
    (hw : s.writable (Path.join dir name) = .ok place) : place = p ++ [name] ∧ IsName name := by
  have last : (Text.splitOn '/' name).getLast? = some name := by
    rw [whole]
    rfl
  rw [writable, resolve_join h last hs, hc] at hw
  split at hw
  · cases hw
  rename_i clean
  simp only [FileStore.follow, h.directory, if_neg hm.1, if_neg hm.2] at hw
  split at hw
  · cases hw
  rename_i short
  refine ⟨?_, ⟨hc, last, hs, hm, clean, by omega⟩⟩
  simp only [bind, Except.bind] at hw
  cases hf : s.entry? (p ++ [name]) with
  | none =>
    have asked : (Path.steps (Path.join dir name)).getLast? ≠ some "." := by
      rw [Path.steps_join h.given last hs, hc, List.getLast?_concat]
      simpa using hm.1
    simp only [hf, if_neg asked, List.dropLast_concat, h.directory] at hw
    cases hw
    rfl
  | some e =>
    cases e with
    | directory => exact absurd hf flat
    | file content =>
      simp only [hf] at hw
      cases hw
      rfl

/-- In a directory without directories a file is written under a name. -/
theorem isName_of_writable {c : Char} {cs front ending : List Char} (hn : name.toList = c :: cs)
    (he : name.toList = front ++ ending) (hc : c ≠ '/') (hd : c ≠ '.') (hs : '/' ∉ ending)
    (hlen : 2 ≤ ending.length) (h : s.LeadsTo dir p)
    (flat : ∀ other, s.entry? (p ++ [other]) ≠ some .directory) {place : Place}
    (hw : s.writable (Path.join dir name) = .ok place) : place = p ++ [name] ∧ IsName name := by
  obtain ⟨⟨last, hl, step⟩, hcomp⟩ := Path.components_name hn he hc hd hs hlen
  rcases hcomp with ⟨whole, single, hm⟩ | ⟨first, second, rest, several, hm⟩
  · rw [whole, List.getLast?_singleton, Option.some.injEq] at hl
    exact place_of_writable h whole (hl ▸ step) single hm (flat name) hw
  · exact absurd hw (not_writable_of_steps h hl step several hm (flat first) place)

/-! ## Reading what was written -/

/-- No directory stands where a file can be written. -/
theorem resolve_of_writable {path : String} (h : s.writable path = .ok p) :
    s.resolve path = .ok p ∧ s.entry? p ≠ some .directory := by
  obtain ⟨q, hq, h⟩ := except_bind_ok.1 h
  cases he : s.entry? q with
  | none =>
    rw [he] at h
    dsimp only at h
    split at h
    · cases h
    split at h
    · cases h
      exact ⟨hq, by simp [he]⟩
    · cases h
    · cases h
  | some e =>
    cases e with
    | directory =>
      rw [he] at h
      cases h
    | file content =>
      rw [he] at h
      cases h
      exact ⟨hq, by simp [he]⟩

theorem Keeps.resolve (hk : Keeps s s') {path : String} (h : s.resolve path = .ok p) :
    s'.resolve path = .ok p := by
  rw [FileStore.resolve] at h ⊢
  split at h
  · cases h
  rw [if_neg ‹_›]
  split at h
  · cases h
  rw [if_neg ‹_›, hk.home]
  exact hk.follow h

/-- A file holds what was written to its path. -/
theorem read_write {path : String} {content : Bytes} (h : s.write path content = .ok s') :
    s'.read path = .ok content := by
  obtain ⟨p, hp, h⟩ := except_bind_ok.1 h
  cases h
  obtain ⟨hr, flat⟩ := resolve_of_writable hp
  have root : p ≠ [] := by
    rintro rfl
    exact flat rfl
  have found : (s.put p (.file content)).find path = .ok (p, .file content) := by
    refine except_bind_ok.2 ⟨p, (keeps_put flat content).resolve hr, ?_⟩
    rw [entry?_put_self s root]
    rfl
  exact except_bind_ok.2 ⟨_, found, rfl⟩

end MetaGraph.FileStore

/-
The places that a path passes. A path leads to a directory if directories
stand at all of them; where directories are made, they are made there, and
nothing else changes. In a tree nothing stands below a place that is no
directory, and a tree stays one when directories are made or removed.
-/
import Mathlib.Data.List.Induction
import Mathlib.Tactic.ByContra
import MetaGraph.Proofs.Files.Directory

namespace MetaGraph.FileStore

variable {s s' : FileStore} {p q d : Place} {path : String} {steps : List String}

/-! ## Places on the way -/

/-- The place that a step leads to. -/
def next (p : Place) (step : String) : Place :=
  if step = "." then p else if step = ".." then p.dropLast else p ++ [step]

/-- The places that steps pass, the one they start from and the last one with them. -/
def walk : Place → List String → List Place
  | p, [] => [p]
  | p, step :: rest => p :: walk (next p step) rest

/-- The place that a path starts from. -/
def start (s : FileStore) (path : String) : Place := if Path.isAbsolute path then [] else s.home

/-- The places that a path passes. -/
def way (s : FileStore) (path : String) : List Place := walk (s.start path) (Path.components path)

/-- The place that a path leads to if it leads anywhere. -/
def placeOf (s : FileStore) (path : String) : Place := (Path.components path).foldl next (s.start path)

theorem way_congr (h : s'.home = s.home) (path : String) : s'.way path = s.way path := by
  rw [way, start, h]
  rfl

theorem placeOf_congr (h : s'.home = s.home) (path : String) : s'.placeOf path = s.placeOf path := by
  rw [placeOf, start, h]
  rfl

theorem start_mem_walk (p : Place) (steps : List String) : p ∈ walk p steps := by
  cases steps <;> exact List.mem_cons_self

theorem foldl_next_mem_walk (p : Place) (steps : List String) : steps.foldl next p ∈ walk p steps := by
  induction steps generalizing p with
  | nil => exact List.mem_singleton_self p
  | cons step rest ih => exact List.mem_cons_of_mem p (ih (next p step))

theorem placeOf_mem_way (s : FileStore) (path : String) : s.placeOf path ∈ s.way path :=
  foldl_next_mem_walk _ _

/-- A step that stays adds no place. -/
theorem mem_walk_stay {w : Place} : w ∈ walk p (steps ++ ["."]) ↔ w ∈ walk p steps := by
  induction steps generalizing p with
  | nil => simp [walk, next]
  | cons step rest ih => simp only [List.cons_append, walk, List.mem_cons, ih]

theorem mem_walk_steps {w : Place} :
    w ∈ walk p (Path.steps path) ↔ w ∈ walk p (Path.components path) := by
  rcases Path.steps_eq path with hs | hs <;> rw [hs]
  exact mem_walk_stay

/-- Steps forward pass nothing but places above the one they lead to. -/
theorem prefix_of_mem_walk (forward : ".." ∉ steps) {w : Place} (h : w ∈ walk p steps) :
    p <+: w ∧ w <+: steps.foldl next p := by
  induction steps generalizing p w with
  | nil =>
    obtain rfl := List.mem_singleton.1 h
    exact ⟨List.prefix_rfl, List.prefix_rfl⟩
  | cons step rest ih =>
    obtain ⟨other, forward⟩ := not_or.1 (mt List.mem_cons.2 forward)
    have on : p <+: next p step := by
      unfold next
      rw [if_neg (Ne.symm other)]
      split
      · exact List.prefix_rfl
      · exact List.prefix_append p [step]
    rcases List.mem_cons.1 h with rfl | h
    · exact ⟨List.prefix_rfl, on.trans (ih forward (start_mem_walk (next w step) rest)).2⟩
    · exact ⟨on.trans (ih forward h).1, (ih forward h).2⟩

theorem follow_cons_ok {step : String} {rest : List String} :
    s.follow p (step :: rest) = .ok q ↔
      s.entry? p = some .directory ∧ step.utf8ByteSize ≤ maxName ∧ s.follow (next p step) rest = .ok q := by
  rw [FileStore.follow]
  cases s.entry? p with
  | none => simp
  | some e =>
    cases e with
    | file content => simp
    | directory =>
      unfold next
      by_cases stay : step = "."
      · have short : step.utf8ByteSize ≤ maxName := stay ▸ (by decide)
        simp only [if_pos stay, short, true_and]
      by_cases up : step = ".."
      · have short : step.utf8ByteSize ≤ maxName := up ▸ (by decide)
        simp only [if_neg stay, if_pos up, short, true_and]
      simp only [if_neg stay, if_neg up, true_and]
      split
      · rename_i long
        simp [Nat.not_le.2 long]
      · rw [and_iff_right (by omega)]

/-- Steps lead to a directory if all places they pass are directories. -/
theorem follow_directory_iff : s.follow p steps = .ok q ∧ s.entry? q = some .directory ↔
    (∀ step ∈ steps, step.utf8ByteSize ≤ maxName) ∧
      (∀ w ∈ walk p steps, s.entry? w = some .directory) ∧ q = steps.foldl next p := by
  induction steps generalizing p with
  | nil =>
    constructor
    · rintro ⟨⟨⟩, directory⟩
      exact ⟨nofun, List.forall_mem_singleton.2 directory, rfl⟩
    · rintro ⟨-, directory, rfl⟩
      exact ⟨rfl, directory q (List.mem_singleton_self q)⟩
  | cons step rest ih =>
    rw [follow_cons_ok, and_assoc, and_assoc, ih, walk, List.forall_mem_cons, List.forall_mem_cons,
      List.foldl_cons]
    constructor
    · rintro ⟨here, short, others, directories, last⟩
      exact ⟨⟨short, others⟩, ⟨here, directories⟩, last⟩
    · rintro ⟨⟨short, others⟩, ⟨here, directories⟩, last⟩
      exact ⟨here, short, others, directories, last⟩

theorem leadsTo_iff : s.LeadsTo path p ↔ path ≠ "" ∧ '\x00' ∉ path.toList ∧
    (∀ step ∈ Path.components path, step.utf8ByteSize ≤ maxName) ∧
      (∀ w ∈ s.way path, s.entry? w = some .directory) ∧ p = s.placeOf path := by
  constructor
  · intro h
    exact ⟨h.given, h.clean, follow_directory_iff.1 ⟨h.follow, h.directory⟩⟩
  · rintro ⟨given, clean, led⟩
    obtain ⟨follow, directory⟩ := follow_directory_iff.2 led
    exact ⟨given, clean, directory, follow⟩

/-! ## Trees -/

/-- Whatever stands somewhere stands in a directory. -/
def IsTree (s : FileStore) : Prop := ∀ p, (s.entry? p).isSome → s.entry? p.dropLast = some .directory

theorem isBelow_iff : isBelow d q = true ↔ ∃ name rest, q = d ++ name :: rest := by
  simp only [isBelow, Bool.and_eq_true, decide_eq_true_eq]
  constructor
  · rintro ⟨longer, front⟩
    obtain ⟨name, rest, back⟩ : ∃ name rest, q.drop d.length = name :: rest :=
      List.exists_cons_of_ne_nil fun none => by
        have := List.drop_eq_nil_iff.1 none
        omega
    refine ⟨name, rest, ?_⟩
    calc q = q.take d.length ++ q.drop d.length := (List.take_append_drop d.length q).symm
      _ = d ++ name :: rest := by rw [front, back]
  · rintro ⟨name, rest, rfl⟩
    simp

theorem IsTree.directory_of_append (h : s.IsTree) {rest : Place} (given : rest ≠ [])
    (hq : (s.entry? (p ++ rest)).isSome) : s.entry? p = some .directory := by
  induction rest using List.reverseRecOn with
  | nil => exact absurd rfl given
  | append_singleton front last ih =>
    have above := h _ hq
    rw [← List.append_assoc, List.dropLast_concat] at above
    by_cases none : front = []
    · rwa [none, List.append_nil] at above
    · exact ih none (by rw [above]; rfl)

theorem IsTree.directory_of_below (h : s.IsTree) (below : isBelow d q = true) (hq : (s.entry? q).isSome) :
    s.entry? d = some .directory := by
  obtain ⟨name, rest, rfl⟩ := isBelow_iff.1 below
  exact h.directory_of_append (List.cons_ne_nil name rest) hq

theorem IsTree.directory_of_prefix (h : s.IsTree) (above : d <+: p) (hp : s.entry? p = some .directory) :
    s.entry? d = some .directory := by
  obtain ⟨rest, rfl⟩ := above
  cases rest with
  | nil => rwa [List.append_nil] at hp
  | cons name rest => exact h.directory_of_append (List.cons_ne_nil name rest) (by rw [hp]; rfl)

/-- Nothing stands below a directory without names. -/
theorem IsTree.entry?_of_empty (h : s.IsTree) (empty : s.namesIn d = []) (below : isBelow d q = true) :
    s.entry? q = none := by
  obtain ⟨name, rest, rfl⟩ := isBelow_iff.1 below
  by_contra given
  have named : (s.entry? (d ++ [name])).isSome := by
    cases rest with
    | nil => exact Option.ne_none_iff_isSome.1 given
    | cons second rest =>
      rw [h.directory_of_append (p := d ++ [name]) (List.cons_ne_nil second rest)
        (by rw [List.append_assoc]; exact Option.ne_none_iff_isSome.1 given)]
      rfl
  rw [← mem_namesIn, empty] at named
  cases named

/-- A store is a tree if each of its entries stands in a directory. -/
theorem isTree_of_entries (h : ∀ x ∈ s.entries, s.entry? x.1.dropLast = some .directory) : s.IsTree := by
  intro p hp
  by_cases root : p = []
  · rw [root]
    rfl
  · rw [FileStore.entry?, if_neg root] at hp
    obtain ⟨e, he⟩ := Option.isSome_iff_exists.1 hp
    obtain ⟨before, after, hs, -⟩ := List.lookup_eq_some_iff.1 he
    exact h (p, e) (hs ▸ List.mem_append_right before List.mem_cons_self)

/-! ## Making directories -/

/-- The store with a directory at a place, if nothing stood there. -/
def withDirectory (s : FileStore) (p : Place) : FileStore :=
  if (s.entry? p).isNone then s.put p .directory else s

theorem entry?_withDirectory (free : ∀ content, s.entry? p ≠ some (.file content)) (q : Place) :
    FileStore.entry? (s.withDirectory p) q = if q = p then some .directory else s.entry? q := by
  unfold withDirectory
  split
  · rename_i none
    have root : p ≠ [] := by
      rintro rfl
      cases none
    split
    · rename_i same
      rw [same, entry?_put_self s root]
    · exact entry?_put_other s ‹_› _
  · rename_i given
    split
    · rename_i same
      rw [same]
      cases he : s.entry? p with
      | none => exact absurd (by rw [he]; rfl) given
      | some e =>
        cases e with
        | directory => rfl
        | file content => exact absurd he (free content)
    · rfl

theorem home_withDirectory (s : FileStore) (p : Place) : (s.withDirectory p).home = s.home := by
  unfold withDirectory
  split <;> rfl

/-- Directories stand at some places at which no files stood, and nothing else has changed. -/
structure Made (s s' : FileStore) (places : List Place) : Prop where
  home : s'.home = s.home
  free : ∀ w ∈ places, ∀ content, s.entry? w ≠ some (.file content)
  entry : ∀ q, s'.entry? q = if q ∈ places then some .directory else s.entry? q

theorem makeSteps_nil_ok : s.makeSteps p [] = .ok s' ↔
    (∀ content, s.entry? p ≠ some (.file content)) ∧ s' = s.withDirectory p := by
  rw [makeSteps, withDirectory]
  cases s.entry? p with
  | none => simp [eq_comm]
  | some e => cases e <;> simp [eq_comm]

theorem makeSteps_cons_ok {step : String} {rest : List String} : s.makeSteps p (step :: rest) = .ok s' ↔
    (∀ content, s.entry? p ≠ some (.file content)) ∧ step.utf8ByteSize ≤ maxName ∧
      (s.withDirectory p).makeSteps (next p step) rest = .ok s' := by
  rw [makeSteps]
  split
  · rename_i content given
    exact iff_of_false nofun fun h => h.1 content given
  · rename_i free
    rw [and_iff_right free]
    change (if step = "." then (s.withDirectory p).makeSteps p rest
      else if step = ".." then (s.withDirectory p).makeSteps p.dropLast rest
      else if maxName < step.utf8ByteSize then .error .nameTooLong
      else (s.withDirectory p).makeSteps (p ++ [step]) rest) = .ok s' ↔ _
    unfold next
    by_cases stay : step = "."
    · have short : step.utf8ByteSize ≤ maxName := stay ▸ (by decide)
      simp only [if_pos stay, short, true_and]
    by_cases up : step = ".."
    · have short : step.utf8ByteSize ≤ maxName := up ▸ (by decide)
      simp only [if_neg stay, if_pos up, short, true_and]
    simp only [if_neg stay, if_neg up]
    split
    · exact iff_of_false nofun (by omega)
    · rw [and_iff_right (by omega)]

/-- Directories are made at the places that steps pass. -/
theorem made_of_makeSteps (h : s.makeSteps p steps = .ok s') :
    (∀ step ∈ steps, step.utf8ByteSize ≤ maxName) ∧ Made s s' (walk p steps) := by
  induction steps generalizing s p with
  | nil =>
    obtain ⟨free, rfl⟩ := makeSteps_nil_ok.1 h
    refine ⟨nofun, s.home_withDirectory p, ?_, fun q => ?_⟩
    · exact fun w hw => List.mem_singleton.1 hw ▸ free
    · rw [entry?_withDirectory free, walk]
      simp only [List.mem_singleton]
  | cons step rest ih =>
    obtain ⟨free, short, h⟩ := makeSteps_cons_ok.1 h
    obtain ⟨others, made⟩ := ih h
    refine ⟨List.forall_mem_cons.2 ⟨short, others⟩, made.home.trans (s.home_withDirectory p), ?_, fun q => ?_⟩
    · refine fun w hw content given => ?_
      by_cases here : w = p
      · exact free content (here ▸ given)
      · refine made.free w ((List.mem_cons.1 hw).resolve_left here) content ?_
        rw [entry?_withDirectory free, if_neg here, given]
    · rw [made.entry, entry?_withDirectory free, walk]
      simp only [List.mem_cons]
      by_cases here : q = p <;> simp [here]

theorem IsTree.withDirectory (h : s.IsTree) (parent : s.entry? p.dropLast = some .directory) :
    (s.withDirectory p).IsTree := by
  by_cases none : s.entry? p = none
  · have free (content : Bytes) : s.entry? p ≠ some (.file content) := by
      rw [none]
      nofun
    intro q hq
    rw [entry?_withDirectory free] at hq ⊢
    by_cases here : q = p
    · subst here
      split
      · rfl
      · exact parent
    · rw [if_neg here] at hq
      rw [h q hq]
      split <;> rfl
  · have same : s.withDirectory p = s := if_neg (by simpa using none)
    rwa [same]

/-- A tree stays one where directories are made on the way from a place in a directory. -/
theorem IsTree.makeSteps (h : s.IsTree) (parent : s.entry? p.dropLast = some .directory)
    (made : s.makeSteps p steps = .ok s') : s'.IsTree := by
  induction steps generalizing s p with
  | nil =>
    obtain ⟨-, rfl⟩ := makeSteps_nil_ok.1 made
    exact h.withDirectory parent
  | cons step rest ih =>
    obtain ⟨free, -, made⟩ := makeSteps_cons_ok.1 made
    have tree := h.withDirectory parent
    have here : FileStore.entry? (s.withDirectory p) p = some .directory := by
      rw [entry?_withDirectory free, if_pos rfl]
    have above := tree p (by rw [here]; rfl)
    refine ih tree ?_ made
    unfold next
    split
    · exact above
    split
    · exact tree p.dropLast (by rw [above]; rfl)
    · rw [List.dropLast_concat]
      exact here

/-- Making the directory at the end of a path makes those on the way to it. -/
theorem makeSteps_of_makeDirectories (given : path ≠ "") (h : s.makeDirectories path = .ok s') :
    '\x00' ∉ path.toList ∧ s.entry? (s.start path) = some .directory ∧
      s.makeSteps (s.start path) (Path.steps path) = .ok s' := by
  by_cases clean : path.toList.contains '\x00' = true
  · rw [makeDirectories, if_neg given, if_pos clean] at h
    cases h
  rw [makeDirectories, if_neg given, if_neg clean] at h
  change (if s.entry? (s.start path) ≠ some .directory then .error .notFound
    else s.makeSteps (s.start path) (Path.steps path)) = .ok s' at h
  by_cases there : s.entry? (s.start path) = some .directory
  · rw [if_neg (not_not.2 there)] at h
    exact ⟨by simpa using clean, there, h⟩
  · rw [if_pos there] at h
    cases h

theorem made_of_makeDirectories (given : path ≠ "") (h : s.makeDirectories path = .ok s') :
    s'.LeadsTo path (s.placeOf path) ∧ Made s s' (s.way path) := by
  obtain ⟨clean, -, steps⟩ := makeSteps_of_makeDirectories given h
  obtain ⟨short, made⟩ := made_of_makeSteps steps
  have made : Made s s' (s.way path) := by
    refine ⟨made.home, fun w hw => made.free w (mem_walk_steps.2 hw), fun q => ?_⟩
    rw [made.entry]
    exact if_congr mem_walk_steps rfl rfl
  refine ⟨?_, made⟩
  refine leadsTo_iff.2 ⟨given, clean, fun step hs => short step ?_, fun w hw => ?_,
    (placeOf_congr made.home path).symm⟩
  · rcases Path.steps_eq path with he | he <;> rw [he]
    · exact hs
    · exact List.mem_append_left _ hs
  · rw [made.entry, if_pos (way_congr made.home path ▸ hw)]

theorem IsTree.makeDirectories (h : s.IsTree) (given : path ≠ "") (made : s.makeDirectories path = .ok s') :
    s'.IsTree := by
  obtain ⟨-, there, steps⟩ := makeSteps_of_makeDirectories given made
  exact h.makeSteps (h _ (by rw [there]; rfl)) steps

/-! ## Removing directories -/

/-- A directory is removed with everything below it. -/
theorem entry?_removeTree (h : s.removeTree path = .ok s') : ∃ p, s.find path = .ok (p, .directory) ∧
    s'.home = s.home ∧
      ∀ q, s'.entry? q = if q = p ∧ q ≠ [] ∨ isBelow p q = true then none else s.entry? q := by
  obtain ⟨⟨p, _ | _⟩, found, h⟩ := except_bind_ok.1 h
  · cases h
    refine ⟨p, found, rfl, fun q => ?_⟩
    by_cases root : q = []
    · subst root
      have above : isBelow p [] = false := by simp [isBelow]
      rw [above, if_neg (by simp)]
      rfl
    · have kept := lookup_filter (fun q => q ≠ p && !isBelow p q) q s.entries
      simp only [FileStore.entry?, if_neg root, kept]
      by_cases same : q = p
      · simp [same, show p ≠ [] from same ▸ root]
      · cases isBelow p q <;> simp [same]
  · cases h

theorem IsTree.removeTree (h : s.IsTree) (removed : s.removeTree path = .ok s') : s'.IsTree := by
  obtain ⟨p, -, -, entry⟩ := entry?_removeTree removed
  intro q hq
  rw [entry] at hq ⊢
  split at hq
  · cases hq
  rename_i kept
  rw [if_neg fun gone => kept ?_]
  · exact h q hq
  · -- What stands in a directory that is removed is below the removed one.
    right
    by_cases root : q = []
    · subst root
      rcases gone with ⟨-, given⟩ | below
      · exact absurd rfl given
      · exact below
    obtain ⟨last, whole⟩ : ∃ last, q.dropLast ++ [last] = q := ⟨_, List.dropLast_concat_getLast root⟩
    rcases gone with ⟨same, -⟩ | below
    · exact isBelow_iff.2 ⟨last, [], by rw [← whole, same]⟩
    · obtain ⟨name, rest, inside⟩ := isBelow_iff.1 below
      exact isBelow_iff.2 ⟨name, rest ++ [last], by rw [← whole, inside, List.append_assoc]; rfl⟩

end MetaGraph.FileStore

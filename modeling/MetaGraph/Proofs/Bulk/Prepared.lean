/-
The directories of a sink that was made ready. Making a directory ready
clears what stood below it, if anything stood at the end of its path, and
makes the directories on the way to it. With two directories, what is made
for the first can be cleared for the second. The main statement says exactly
when both stand there without files in the end; and that no file is touched
unless that is allowed.
-/
import MetaGraph.Proofs.Bulk.Elements
import MetaGraph.Proofs.Files.Way

namespace MetaGraph

namespace FileStore

variable {s s' s₁ : FileStore} {path other : String} {p q w : Place}

/-- A directory stands at the end of a path, and no file below it. -/
def Vacant (s : FileStore) (path : String) : Prop :=
  ∃ p, s.LeadsTo path p ∧ ∀ q content, isBelow p q = true → s.entry? q ≠ some (.file content)

/-- What is cleared for a path: all that stands below a directory at its end. -/
def clears (s : FileStore) (path : String) (q : Place) : Bool :=
  s.pathExists path && isBelow (s.placeOf path) q

theorem LeadsTo.placeOf_eq (h : s.LeadsTo path p) : p = s.placeOf path := (leadsTo_iff.1 h).2.2.2.2

/-- Paths that are the same pass the same places. -/
theorem way_of_same (same : Path.same other path = true) (s : FileStore) : s.way other = s.way path := by
  simp only [Path.same, Bool.and_eq_true, beq_iff_eq] at same
  rw [way, way, start, start, same.1.1, same.2]

theorem placeOf_of_same (same : Path.same other path = true) (s : FileStore) :
    s.placeOf other = s.placeOf path := by
  simp only [Path.same, Bool.and_eq_true, beq_iff_eq] at same
  rw [placeOf, placeOf, start, start, same.1.1, same.2]

theorem LeadsTo.of_same (h : s.LeadsTo path p) (same : Path.same other path = true) (given : other ≠ "") :
    s.LeadsTo other (s.placeOf other) := by
  obtain ⟨-, clean, short, directories, -⟩ := leadsTo_iff.1 h
  have passed := way_of_same same s
  simp only [Path.same, Bool.and_eq_true, beq_iff_eq] at same
  refine leadsTo_iff.2 ⟨given, fun nul => clean ?_, same.2 ▸ short, passed ▸ directories, rfl⟩
  rwa [Path.mem_iff_mem_components (by decide) (by decide), ← same.2,
    ← Path.mem_iff_mem_components (by decide) (by decide)]

theorem LeadsTo.pathExists (h : s.LeadsTo path p) : s.pathExists path = true := by
  rw [FileStore.pathExists, h.find]
  rfl

/-- A directory was made ready: everything on its way is a directory, and what `cleared` says is
gone. -/
structure MadeReady (s s' : FileStore) (path : String) (cleared : Place → Bool) : Prop where
  leads : s'.LeadsTo path (s.placeOf path)
  home : s'.home = s.home
  free : ∀ w ∈ s.way path, ∀ content, s.entry? w ≠ some (.file content)
  entry : ∀ q, s'.entry? q =
    if q ∈ s.way path then some .directory else if cleared q = true then none else s.entry? q

/-- The files that are left are those that were not cleared. -/
theorem MadeReady.file_iff {cleared : Place → Bool} (h : MadeReady s s' path cleared) {content : Bytes} :
    s'.entry? q = some (.file content) ↔ s.entry? q = some (.file content) ∧ cleared q = false := by
  rw [h.entry]
  split
  · rename_i hw
    exact iff_of_false nofun fun given => h.free q hw content given.1
  split
  · rename_i gone
    exact iff_of_false nofun fun given => by rw [gone] at given; cases given.2
  · rename_i kept
    exact (and_iff_left (Bool.eq_false_iff.2 kept)).symm

/-- Once both directories were made ready, they stand there without files if and only if nothing on
the way to the first was cleared for good with the second, and all files below them were cleared. -/
theorem vacant_both_iff {first second : Place → Bool} (h : MadeReady s s₁ path first)
    (h' : MadeReady s₁ s' other second) :
    s'.Vacant path ∧ s'.Vacant other ↔
      (∀ w ∈ s.way path, second w = true → w ∈ s.way other) ∧
        ∀ q content, s.entry? q = some (.file content) →
          (isBelow (s.placeOf path) q = true ∨ isBelow (s.placeOf other) q = true) →
          first q = true ∨ second q = true := by
  have home : s'.home = s.home := h'.home.trans h.home
  have sameWay : s₁.way other = s.way other := way_congr h.home other
  -- The files in the end are those that neither clearing has removed.
  have file {q : Place} {content : Bytes} : s'.entry? q = some (.file content) ↔
      s.entry? q = some (.file content) ∧ ¬ (first q = true ∨ second q = true) := by
    rw [h'.file_iff, h.file_iff, and_assoc, not_or, Bool.not_eq_true, Bool.not_eq_true]
  constructor
  · rintro ⟨⟨p, leads, none⟩, ⟨p', leads', none'⟩⟩
    refine ⟨fun w hw gone => ?_, fun q content given below => ?_⟩
    · have there := (leadsTo_iff.1 leads).2.2.2.1 w (way_congr home path ▸ hw)
      rw [h'.entry, gone, sameWay] at there
      by_contra off
      rw [if_neg off, if_pos rfl] at there
      cases there
    · by_contra kept
      rcases below with below | below
      · refine none q content ?_ (file.2 ⟨given, kept⟩)
        rwa [leads.placeOf_eq, placeOf_congr home]
      · refine none' q content ?_ (file.2 ⟨given, kept⟩)
        rwa [leads'.placeOf_eq, placeOf_congr home]
  · rintro ⟨spared, cleared⟩
    have empty {q : Place} (below : isBelow (s.placeOf path) q = true ∨ isBelow (s.placeOf other) q = true)
        (content : Bytes) : s'.entry? q ≠ some (.file content) := fun left =>
      (file.1 left).2 (cleared q content (file.1 left).1 below)
    obtain ⟨given, clean, short, -, -⟩ := leadsTo_iff.1 h.leads
    refine ⟨⟨s.placeOf path, leadsTo_iff.2 ⟨given, clean, short, fun w hw => ?_, (placeOf_congr home path).symm⟩,
      fun q content below => empty (.inl below) content⟩,
      ⟨s₁.placeOf other, h'.leads, fun q content below => empty (.inr ?_) content⟩⟩
    · rw [way_congr home] at hw
      rw [h'.entry, sameWay]
      split
      · rfl
      rename_i off
      rw [if_neg fun gone => off (spared w hw gone), h.entry, if_pos hw]
    · rwa [placeOf_congr h.home] at below

theorem clears_iff : s.clears path q = true ↔ s.pathExists path = true ∧ isBelow (s.placeOf path) q = true :=
  Bool.and_eq_true_iff

@[simp] theorem isBelow_self (p : Place) : isBelow p p = false := by simp [isBelow]

theorem isBelow_of_prefix {d : Place} (h : isBelow d w = true) (on : w <+: p) : isBelow d p = true := by
  obtain ⟨name, rest, rfl⟩ := isBelow_iff.1 h
  obtain ⟨more, rfl⟩ := on
  exact isBelow_iff.2 ⟨name, rest ++ more, by rw [List.append_assoc]; rfl⟩

/-- Steps forward lead to a directory if one stands at their end, since a tree has those on the way. -/
theorem IsTree.leadsTo_of_directory (tree : s.IsTree) (forward : ".." ∉ Path.components path) (given : path ≠ "")
    (clean : '\x00' ∉ path.toList) (short : ∀ step ∈ Path.components path, step.utf8ByteSize ≤ maxName)
    (there : s.entry? (s.placeOf path) = some .directory) : s.LeadsTo path (s.placeOf path) :=
  leadsTo_iff.2 ⟨given, clean, short,
    fun _ hw => tree.directory_of_prefix (prefix_of_mem_walk forward hw).2 there, rfl⟩

/-- What stands below the end of a forward path is cleared for it: it tells that the directory is there. -/
theorem IsTree.clears_of_below (tree : s.IsTree) (forward : ".." ∉ Path.components path) (leads : s'.LeadsTo path p)
    (some : (s.entry? q).isSome) (below : isBelow (s.placeOf path) q = true) : s.clears path q = true := by
  obtain ⟨given, clean, short, -, -⟩ := leadsTo_iff.1 leads
  have there := tree.leadsTo_of_directory forward given clean short (tree.directory_of_below below some)
  exact clears_iff.2 ⟨there.pathExists, below⟩

end FileStore

namespace BulkFiles

open FileStore

variable {s s' s₁ : FileStore} {path scope : String} {force : Bool} {c : BulkLoaderConfig}

/-! ## One directory -/

/-- A directory that is ready: what it held was cleared, which only happens if that is allowed. -/
theorem madeReady_of_prepareDirectory (tree : s.IsTree) (given : path ≠ "")
    (h : prepareDirectory scope force s path = .ok s') :
    s'.IsTree ∧ MadeReady s s' path (s.clears path) ∧
      (force = false → ∀ q, s.clears path q = true → s.entry? q = none) := by
  unfold prepareDirectory at h
  dsimp only at h
  split at h
  · rename_i there
    obtain ⟨names, listed, h⟩ := except_bind_ok.1 h
    obtain ⟨⟨p, _ | _⟩, found, named⟩ := except_bind_ok.1 (except_mapError_ok.1 listed)
    · cases named
      have place : p = s.placeOf path := (leadsTo_of_find found).placeOf_eq
      have cleared (q : Place) : s.clears path q = isBelow p q := by rw [clears, there, place, Bool.true_and]
      split at h
      · rename_i empty
        have made := except_mapError_ok.1 h
        have none (q : Place) (hq : s.clears path q = true) : s.entry? q = none :=
          tree.entry?_of_empty empty (cleared q ▸ hq)
        obtain ⟨leads, made'⟩ := made_of_makeDirectories given made
        refine ⟨tree.makeDirectories given made, ⟨leads, made'.home, made'.free, fun q => ?_⟩, fun _ => none⟩
        rw [made'.entry]
        split
        · rfl
        split
        · exact none q ‹_›
        · rfl
      split at h
      · rename_i forced
        obtain ⟨s₀, removed, h⟩ := except_bind_ok.1 h
        have removed := except_mapError_ok.1 removed
        have made := except_mapError_ok.1 h
        obtain ⟨p', found', home, entry⟩ := entry?_removeTree removed
        obtain rfl : p' = p := by
          rw [found] at found'
          cases found'
          rfl
        obtain ⟨leads, made'⟩ := made_of_makeDirectories given made
        have directories := (leadsTo_iff.1 (leadsTo_of_find found)).2.2.2.1
        refine ⟨(tree.removeTree removed).makeDirectories given made,
          ⟨placeOf_congr home path ▸ leads, made'.home.trans home, fun w hw content file => ?_, fun q => ?_⟩,
          fun off => by rw [off] at forced; cases forced⟩
        · rw [directories w hw] at file
          cases file
        · rw [made'.entry, way_congr home, cleared, entry]
          split
          · rfl
          rename_i off
          have other : q ≠ p' := by
            rintro rfl
            exact off (place ▸ placeOf_mem_way s path)
          simp only [other, false_and, false_or]
      · cases h
    · cases named
  · rename_i missing
    have made := except_mapError_ok.1 h
    obtain ⟨leads, made'⟩ := made_of_makeDirectories given made
    have kept (q : Place) : s.clears path q = false := by
      rw [clears, Bool.eq_false_iff.2 missing, Bool.false_and]
    refine ⟨tree.makeDirectories given made, ⟨leads, made'.home, made'.free, fun q => ?_⟩, fun _ q hq => ?_⟩
    · rw [made'.entry, kept]
      rfl
    · rw [kept] at hq
      cases hq

/-! ## Both directories -/

theorem prepare_ok {scope : Scope} (h : prepare scope c s = (.ok (), s')) :
    c.nodeDirectory ≠ "" ∧ c.relationDirectory ≠ "" ∧
      ∃ s₁, prepareDirectory scope.name c.force s c.nodeDirectory = .ok s₁ ∧
        if Path.same c.relationDirectory c.nodeDirectory then s' = s₁
        else prepareDirectory scope.name c.force s₁ c.relationDirectory = .ok s' := by
  rw [prepare] at h
  split at h
  · cases h
  rename_i given
  split at h
  · cases h
  rename_i given'
  refine ⟨given, given', ?_⟩
  split at h
  · cases h
  rename_i s₁ first
  refine ⟨s₁, first, ?_⟩
  split at h
  · rw [if_pos ‹_›]
    cases h
    rfl
  · rw [if_neg ‹_›]
    split at h
    · cases h
    · cases h
      assumption

/-- What is cleared for the second directory; nothing if it is the first one. -/
def clearsNext (c : BulkLoaderConfig) (s₁ : FileStore) (q : Place) : Bool :=
  !Path.same c.relationDirectory c.nodeDirectory && s₁.clears c.relationDirectory q

theorem clearsNext_iff {q : Place} : clearsNext c s₁ q = true ↔
    Path.same c.relationDirectory c.nodeDirectory = false ∧ s₁.clears c.relationDirectory q = true := by
  rw [clearsNext, Bool.and_eq_true, Bool.not_eq_true']

/-- The second directory is ready too, even if it is the first one. -/
theorem madeReady_of_prepare {scope : Scope} (tree : s.IsTree) (h : prepare scope c s = (.ok (), s')) :
    ∃ s₁, prepareDirectory scope.name c.force s c.nodeDirectory = .ok s₁ ∧ s₁.IsTree ∧
      MadeReady s s₁ c.nodeDirectory (s.clears c.nodeDirectory) ∧
        MadeReady s₁ s' c.relationDirectory (clearsNext c s₁) ∧
          (c.force = false → ∀ q, clearsNext c s₁ q = true → s₁.entry? q = none) := by
  obtain ⟨given, given', s₁, first, second⟩ := prepare_ok h
  obtain ⟨tree₁, ready, -⟩ := madeReady_of_prepareDirectory tree given first
  refine ⟨s₁, first, tree₁, ready, ?_⟩
  split at second
  · rename_i same
    have kept (q : Place) : clearsNext c s₁ q = false := by rw [clearsNext, same]; rfl
    have leads := ready.leads.of_same same given'
    have directories := (leadsTo_iff.1 leads).2.2.2.1
    rw [second]
    refine ⟨⟨leads, rfl, fun w hw content file => ?_, fun q => ?_⟩, fun _ q hq => ?_⟩
    · rw [directories w hw] at file
      cases file
    · rw [kept]
      split
      · exact directories q ‹_›
      · rfl
    · rw [kept] at hq
      cases hq
  · rename_i other
    obtain ⟨-, ready', unforced⟩ := madeReady_of_prepareDirectory tree₁ given' second
    have next : clearsNext c s₁ = s₁.clears c.relationDirectory := by
      funext q
      rw [clearsNext, Bool.eq_false_iff.2 other]
      rfl
    rw [next]
    exact ⟨ready', unforced⟩

/-- Where the paths only lead forward, both directories are ready unless the first is below the
second and is cleared with it. -/
theorem vacant_forward_iff {scope : Scope} (tree : s.IsTree) (h : prepare scope c s = (.ok (), s'))
    (forward : ".." ∉ Path.components c.nodeDirectory) (forward' : ".." ∉ Path.components c.relationDirectory) :
    s'.Vacant c.nodeDirectory ∧ s'.Vacant c.relationDirectory ↔
      ¬ (c.force = true ∧ isBelow (s.placeOf c.relationDirectory) (s.placeOf c.nodeDirectory) = true) := by
  obtain ⟨s₁, -, tree₁, ready, ready', unforced⟩ := madeReady_of_prepare tree h
  have place : s₁.placeOf c.relationDirectory = s.placeOf c.relationDirectory := placeOf_congr ready.home _
  have directories := (leadsTo_iff.1 ready.leads).2.2.2.1
  rw [way_congr ready.home] at directories
  have below₁ {q : Place} := @IsTree.clears_of_below _ _ _ _ q tree forward ready.leads
  have below₂ {q : Place} := @IsTree.clears_of_below _ _ _ _ q tree₁ forward' ready'.leads
  rw [place] at below₂
  rw [vacant_both_iff ready ready']
  constructor
  · rintro ⟨spared, -⟩ ⟨-, nested⟩
    have there : s₁.entry? (s.placeOf c.nodeDirectory) = some .directory := directories _ (placeOf_mem_way s _)
    have other : Path.same c.relationDirectory c.nodeDirectory = false := by
      refine Bool.eq_false_iff.2 fun same => ?_
      rw [placeOf_of_same same s, isBelow_self] at nested
      cases nested
    have gone := clearsNext_iff.2 ⟨other, below₂ (by rw [there]; rfl) nested⟩
    have passed : s.placeOf c.nodeDirectory <+: s.placeOf c.relationDirectory :=
      (prefix_of_mem_walk forward' (spared _ (placeOf_mem_way s _) gone)).2
    have twice := isBelow_of_prefix nested passed
    rw [isBelow_self] at twice
    cases twice
  · intro apart
    refine ⟨fun w hw gone => ?_, fun q content file below => ?_⟩
    · exfalso
      have off : c.force = false := by
        refine Bool.eq_false_iff.2 fun on => apart ⟨on, ?_⟩
        have below := (clears_iff.1 (clearsNext_iff.1 gone).2).2
        exact isBelow_of_prefix (place ▸ below) (prefix_of_mem_walk forward hw).2
      have none := unforced off w gone
      rw [directories w hw] at none
      cases none
    · by_cases first : s.clears c.nodeDirectory q = true
      · exact .inl first
      right
      rcases below with below | below
      · exact absurd (below₁ (by rw [file]; rfl) below) first
      · have left := ready.file_iff.2 ⟨file, Bool.eq_false_iff.2 first⟩
        have other : Path.same c.relationDirectory c.nodeDirectory = false := by
          refine Bool.eq_false_iff.2 fun same => first (below₁ (by rw [file]; rfl) ?_)
          rwa [← placeOf_of_same same s]
        exact clearsNext_iff.2 ⟨other, below₂ (by rw [left]; rfl) below⟩

/-! ## The first rows -/

/-- Without permission no file is touched, whether the directories become ready or not. -/
theorem file_of_prepare_unforced (tree : s.IsTree) (off : c.force = false) (scope : Scope) {q : Place}
    {content : Bytes} (file : s.entry? q = some (.file content)) :
    FileStore.entry? (prepare scope c s).2 q = some (.file content) := by
  have kept {s s' : FileStore} {path : String} (tree : s.IsTree) (given : path ≠ "")
      (h : prepareDirectory scope.name c.force s path = .ok s') (file : s.entry? q = some (.file content)) :
      s'.entry? q = some (.file content) := by
    obtain ⟨-, ready, unforced⟩ := madeReady_of_prepareDirectory tree given h
    refine ready.file_iff.2 ⟨file, Bool.eq_false_iff.2 fun gone => ?_⟩
    rw [unforced off q gone] at file
    cases file
  rw [prepare]
  split
  · exact file
  rename_i given
  split
  · exact file
  rename_i given'
  split
  · exact file
  rename_i s₁ first
  split
  · exact kept tree given first file
  split
  · exact kept tree given first file
  · rename_i s₂ second
    exact kept (madeReady_of_prepareDirectory tree given first).1 given' second (kept tree given first file)

/-- A file can be made under the name of a single step if the directory is there and no directory has
that name. -/
theorem writable_join_iff {dir name : String} (given : dir ≠ "") (whole : Text.splitOn '/' name = [name])
    (step : Path.isStep name = true) (move : name ≠ "." ∧ name ≠ "..") :
    (∃ place, s.writable (Path.join dir name) = .ok place) ↔
      '\x00' ∉ name.toList ∧ name.utf8ByteSize ≤ maxName ∧
        ∃ p, s.LeadsTo dir p ∧ s.entry? (p ++ [name]) ≠ some .directory := by
  have last : (Text.splitOn '/' name).getLast? = some name := by
    rw [whole]
    rfl
  have single : Path.components name = [name] := by
    rw [Path.components, whole]
    exact List.filter_cons_of_pos step
  have on (p : Place) : next p name = p ++ [name] := by rw [next, if_neg move.1, if_neg move.2]
  constructor
  · rintro ⟨place, hw⟩
    obtain ⟨resolved, flat⟩ := resolve_of_writable hw
    have some : Path.components name ≠ [] := by rw [single]; exact List.cons_ne_nil _ _
    obtain ⟨p, leads, follow⟩ := leadsTo_of_resolve_join given last step some resolved
    rw [resolve_join leads last step] at resolved
    rw [single] at follow
    obtain ⟨-, short, reached⟩ := follow_cons_ok.1 follow
    obtain rfl := Except.ok.inj reached
    refine ⟨fun nul => ?_, short, p, leads, on p ▸ flat⟩
    rw [if_pos nul] at resolved
    cases resolved
  · rintro ⟨clean, short, p, leads, flat⟩
    refine ⟨p ++ [name], except_bind_ok.2 ⟨p ++ [name], ?_, ?_⟩⟩
    · rw [resolve_join leads last step, if_neg clean, single]
      exact follow_cons_ok.2 ⟨leads.directory, short, by rw [on]; rfl⟩
    · have asked : (Path.steps (Path.join dir name)).getLast? ≠ some "." := by
        rw [Path.steps_join given last step, single, List.getLast?_concat]
        simpa using move.1
      cases he : s.entry? (p ++ [name]) with
      | none =>
        dsimp only
        rw [if_neg asked, List.dropLast_concat, leads.directory]
        rfl
      | some e =>
        cases e with
        | directory => exact absurd he flat
        | file content => rfl

/-- The first row of a stem without slashes is written if the directory is there, and its file has a
name that fits and that no directory has. -/
theorem writeRow_first_iff {dir stem : String} (given : dir ≠ "") (plain : '/' ∉ stem.toList) (row : Row) :
    (writeRow ⟨s, {}⟩ dir stem row).1 = .ok () ↔
      '\x00' ∉ stem.toList ∧ (fileName stem 0).utf8ByteSize ≤ maxName ∧
        ∃ p, s.LeadsTo dir p ∧ s.entry? (p ++ [fileName stem 0]) ≠ some .directory := by
  have chars := fileName_toList stem 0
  have long : 3 ≤ (fileName stem 0).toList.length := by
    rw [chars, List.length_append]
    exact Nat.le_trans (show 3 ≤ (fileEnding 0).length by decide) (Nat.le_add_left ..)
  have noSlash : '/' ∉ (fileName stem 0).toList := by
    rw [chars, List.mem_append]
    exact fun hm => hm.elim plain (slash_notMem_fileEnding 0)
  have whole : Text.splitOn '/' (fileName stem 0) = [fileName stem 0] := by
    rw [Text.splitOn, Text.splitChars_of_notMem noSlash, List.map_singleton, String.ofList_toList]
  have other {t : String} (short : t.toList.length < 3) : fileName stem 0 ≠ t := by
    intro same
    rw [same] at long
    omega
  have nul : '\x00' ∈ (fileName stem 0).toList ↔ '\x00' ∈ stem.toList := by
    rw [chars, List.mem_append]
    exact or_iff_left (by decide)
  have step : Path.isStep (fileName stem 0) = true := by
    simp only [Path.isStep, Bool.and_eq_true, decide_eq_true_eq]
    exact ⟨other (by decide), other (by decide)⟩
  have path : nextPath ⟨s, {}⟩ dir stem = Path.join dir (fileName stem 0) := rfl
  rw [← nul, ← writable_join_iff given whole step ⟨other (by decide), other (by decide)⟩, writeRow_closed rfl,
    path]
  dsimp only
  cases s.writable (Path.join dir (fileName stem 0)) with
  | error e => simp
  | ok place => exact iff_of_true rfl ⟨place, rfl⟩

/-- **The directories of a sink** in any tree of files. Once both were made ready, each stands there
without files if and only if nothing on the way to the first was cleared for good with the second, and
no file stood below either that was not cleared: where the paths only lead forward, unless the first is
below the second and clearing is allowed. The first row of a stem is written in the one or the other if
that directory is there, the name of the file fits and no directory has it. And without permission to
clear, no file is touched, whether the directories become ready or not. -/
theorem directories_prepared (tree : s.IsTree) (scope : Scope) (c : BulkLoaderConfig) :
    (∀ s', prepare scope c s = (.ok (), s') →
      (∃ s₁, prepareDirectory scope.name c.force s c.nodeDirectory = .ok s₁ ∧
        (s'.Vacant c.nodeDirectory ∧ s'.Vacant c.relationDirectory ↔
          (∀ w ∈ s.way c.nodeDirectory, clearsNext c s₁ w = true → w ∈ s.way c.relationDirectory) ∧
            ∀ q content, s.entry? q = some (.file content) →
              (isBelow (s.placeOf c.nodeDirectory) q = true ∨
                isBelow (s.placeOf c.relationDirectory) q = true) →
              s.clears c.nodeDirectory q = true ∨ clearsNext c s₁ q = true)) ∧
      (".." ∉ Path.components c.nodeDirectory → ".." ∉ Path.components c.relationDirectory →
        (s'.Vacant c.nodeDirectory ∧ s'.Vacant c.relationDirectory ↔
          ¬ (c.force = true ∧
            isBelow (s.placeOf c.relationDirectory) (s.placeOf c.nodeDirectory) = true))) ∧
      ∀ dir ∈ [c.nodeDirectory, c.relationDirectory], ∀ stem row, '/' ∉ stem.toList →
        ((writeRow ⟨s', {}⟩ dir stem row).1 = .ok () ↔
          '\x00' ∉ stem.toList ∧ (fileName stem 0).utf8ByteSize ≤ maxName ∧
            ∃ p, s'.LeadsTo dir p ∧ s'.entry? (p ++ [fileName stem 0]) ≠ some .directory)) ∧
    (c.force = false → ∀ q content, s.entry? q = some (.file content) →
      FileStore.entry? (prepare scope c s).2 q = some (.file content)) := by
  refine ⟨fun s' h => ⟨?_, vacant_forward_iff tree h, fun dir hd stem row plain => ?_⟩,
    fun off q content file => file_of_prepare_unforced tree off scope file⟩
  · obtain ⟨s₁, first, -, ready, ready', -⟩ := madeReady_of_prepare tree h
    exact ⟨s₁, first, vacant_both_iff ready ready'⟩
  · obtain ⟨given, given', -⟩ := prepare_ok h
    refine writeRow_first_iff ?_ plain row
    simp only [List.mem_cons, List.not_mem_nil, or_false] at hd
    rcases hd with rfl | rfl <;> assumption

/-! ## An earlier output -/

/-- A directory with the output of an earlier run. -/
def usedOutput : FileStore := { entries := [(["out"], .directory), (["out", "old.csv"], .file [120])] }

theorem isTree_usedOutput : usedOutput.IsTree := isTree_of_entries (by decide)

/-- What becomes of files when a sink is made ready that may clear its directories. -/
def madeClear (s : FileStore) (nodeDirectory relationDirectory : String) : Except ConfigError Unit × FileStore :=
  prepare (.empty BulkLoader.scopeName) { nodeDirectory, relationDirectory, force := true } s

/-- A directory of relations below that of nodes, which is cleared first; without permission the
earlier output stays. -/
theorem directories_prepared_inside :
    (madeClear usedOutput "/out" "/out/rels").2.Vacant "/out" ∧
      (madeClear usedOutput "/out" "/out/rels").2.Vacant "/out/rels" ∧
      (writeRow ⟨(madeClear usedOutput "/out" "/out/rels").2, {}⟩ "/out" "Badge" []).1 = .ok () ∧
      FileStore.entry? (prepare (.empty BulkLoader.scopeName)
        { nodeDirectory := "/out", relationDirectory := "/out/rels" } usedOutput).2 ["out", "old.csv"] =
          some (.file [120]) := by
  have ready : madeClear usedOutput "/out" "/out/rels" = (.ok (), (madeClear usedOutput "/out" "/out/rels").2) :=
    Prod.ext (except_eq_ok_of_toOption (by decide +kernel)) rfl
  obtain ⟨-, forward, rows⟩ := (directories_prepared isTree_usedOutput _ _).1 _ ready
  obtain ⟨nodes, relations⟩ := (forward (by decide +kernel) (by decide +kernel)).2 (by decide +kernel)
  refine ⟨nodes, relations, (rows "/out" List.mem_cons_self "Badge" [] (by decide)).2 ⟨by decide, by decide, ?_⟩,
    (directories_prepared isTree_usedOutput _ _).2 rfl _ _ rfl⟩
  obtain ⟨p, leads, -⟩ := nodes
  refine ⟨p, leads, ?_⟩
  rw [leads.placeOf_eq]
  decide +kernel

/-- A directory of nodes below that of the relations is cleared with it, and no row can be written
there. And a path through a directory that is only being made leads to an earlier output, which stays. -/
theorem directory_lost :
    (madeClear {} "/out/nodes" "/out").1.toOption = some () ∧
      (madeClear {} "/out/nodes" "/out").2.pathExists "/out/nodes" = false ∧
      (writeRow ⟨(madeClear {} "/out/nodes" "/out").2, {}⟩ "/out/nodes" "Badge" []).1.toOption = none ∧
      (madeClear usedOutput "/out/new/.." "/rels").1.toOption = some () ∧
      (madeClear usedOutput "/out/new/.." "/rels").2.isFile "/out/new/../old.csv" = true := by
  decide +kernel

end BulkFiles

end MetaGraph

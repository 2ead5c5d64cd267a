/-
Bulk-load files after any number of rows. Rows that are named alike and have
the same columns share a file, which stands in the directory of its columns
under a name of its own and holds the columns and then the rows, in the order
in which they were written. No other file stands there.
-/
import Mathlib.Data.List.Nodup
import MetaGraph.Component.BulkLoader
import MetaGraph.Proofs.Files.Directory
import MetaGraph.Proofs.Graph.Validity
import MetaGraph.Proofs.Text.Cuts

namespace MetaGraph.BulkFiles

/-! ## Names of files -/

/-- What a file is called. -/
def fileName (stem : String) (count : Nat) : String := s!"{stem}_{count}.csv"

/-- The end of a file's name, after what it is named after. -/
def fileEnding (count : Nat) : List Char := '_' :: (Nat.toDigits 10 count ++ ['.', 'c', 's', 'v'])

theorem fileName_toList (stem : String) (count : Nat) :
    (fileName stem count).toList = stem.toList ++ fileEnding count := by
  simp [fileName, fileEnding, toString, Nat.toList_repr]

theorem slash_notMem_fileEnding (count : Nat) : '/' ∉ fileEnding count := by
  intro h
  have : '/' ∈ Nat.toDigits 10 count := by simpa [fileEnding] using h
  have := Nat.isDigit_of_mem_toDigits (by decide) (by decide) this
  exact absurd this (by decide)

/-- A number holds no underscore, so the last one in a name stands before the number. -/
theorem fileName_inj {stem stem' : String} {count count' : Nat}
    (h : fileName stem count = fileName stem' count') : stem = stem' ∧ count = count' := by
  have lists := congrArg String.toList h
  simp only [fileName_toList, fileEnding, ← List.cons_append, ← List.append_assoc] at lists
  obtain ⟨hs, hd⟩ := Text.back_inj Nat.underscore_not_in_toDigits Nat.underscore_not_in_toDigits
    (List.append_cancel_right lists)
  refine ⟨String.toList_inj.1 hs, ?_⟩
  rw [← Nat.ofDigitChars_ten_toDigits (n := count), hd, Nat.ofDigitChars_ten_toDigits]

theorem extension?_fileName (stem : String) (count : Nat) :
    Path.extension? (fileName stem count) = some "csv" := by
  have after : ((fileName stem count).toList.reverse.takeWhile (· ≠ '.')).reverse = ['c', 's', 'v'] := by
    rw [fileName_toList, fileEnding]
    simp
  rw [Path.extension?, after, if_pos]
  simp only [fileName_toList, fileEnding, List.length_append, List.length_cons]
  omega

/-! ## What has been written -/

/-- What the rows of a file have in common: what it is named after, and the columns. -/
abbrev FileKey := String × List String

/-- A row, and what its file is named after. -/
structure Line where
  stem : String
  row : Row
deriving DecidableEq

def Line.key (l : Line) : FileKey := (l.stem, l.row.columns)

/-- The rows that belong to a file. -/
def rowsOf (key : FileKey) (lines : List Line) : List (List String) :=
  (lines.filter (·.key = key)).map (·.row.cells)

def contentOf (key : FileKey) (lines : List Line) : Bytes :=
  Csv.rowBytes key.2 ++ (rowsOf key lines).flatMap Csv.rowBytes

theorem contentOf_append (key : FileKey) (lines : List Line) (l : Line) :
    contentOf key (lines ++ [l]) =
      if l.key = key then contentOf key lines ++ Csv.rowBytes l.row.cells else contentOf key lines := by
  by_cases h : l.key = key <;> simp [contentOf, rowsOf, h]

/-- The lines were written, each to the file of its key; the files with columns `columns` stand
in the directory `home columns`, which was empty in `s`. -/
structure Holds (home : List String → Place) (s : FileStore) (lines : List Line) (b : BulkFiles) :
    Prop where
  keeps : FileStore.Keeps s b.files
  keys : (b.output.openFiles.map Prod.fst).Nodup
  places : (b.output.openFiles.map Prod.snd).Nodup
  opened : ∀ key, key ∈ b.output.openFiles.map Prod.fst ↔ ∃ l ∈ lines, l.key = key
  named : ∀ f ∈ b.output.openFiles, ∃ count < (b.output.counts.get? f.1.1).getD 0,
    f.2 = home f.1.2 ++ [fileName f.1.1 count] ∧ FileStore.IsName (fileName f.1.1 count)
  content : ∀ f ∈ b.output.openFiles, b.files.entry? f.2 = some (.file (contentOf f.1 lines))
  nothingElse : ∀ columns name, (b.files.entry? (home columns ++ [name])).isSome →
    home columns ++ [name] ∈ b.output.openFiles.map Prod.snd
  names : ∀ columns, (b.files.namesIn (home columns)).Nodup

theorem holds_empty {home : List String → Place} {s : FileStore}
    (h : ∀ columns, s.namesIn (home columns) = []) : Holds home s [] ⟨s, {}⟩ := by
  refine ⟨.refl s, .nil, .nil, ?_, ?_, ?_, ?_, ?_⟩
  · intro key
    exact ⟨nofun, fun ⟨_, hl, _⟩ => nomatch hl⟩
  · intro f hf
    cases hf
  · intro f hf
    cases hf
  · intro columns name hn
    have := FileStore.mem_namesIn.2 hn
    rw [h columns] at this
    cases this
  · intro columns
    rw [h columns]
    exact .nil

variable {home : List String → Place} {s : FileStore} {lines : List Line} {b b' : BulkFiles}

/-- There are no directories where the files stand. -/
theorem Holds.flat (h : Holds home s lines b) (columns : List String) (name : String) :
    b.files.entry? (home columns ++ [name]) ≠ some .directory := by
  intro hd
  obtain ⟨f, hf, hp⟩ := List.mem_map.1 (h.nothingElse columns name (by rw [hd]; rfl))
  have := h.content f hf
  rw [hp, hd] at this
  cases this

/-- Where no file of a number has been opened, nothing stands. -/
theorem Holds.fresh (h : Holds home s lines b) (stem : String) (columns : List String) :
    home columns ++ [fileName stem ((b.output.counts.get? stem).getD 0)] ∉
      b.output.openFiles.map Prod.snd := by
  intro hm
  obtain ⟨f, hf, hp⟩ := List.mem_map.1 hm
  obtain ⟨count, hlt, hf, -⟩ := h.named f hf
  rw [hf] at hp
  obtain ⟨rfl, rfl⟩ := fileName_inj (List.append_singleton_inj.1 hp).2
  omega

/-- The name of an open file in its directory. -/
def nameOf (f : FileKey × Place) : String := f.2.getLast?.getD ""

theorem Holds.place_eq (h : Holds home s lines b) {f : FileKey × Place} (hf : f ∈ b.output.openFiles) :
    f.2 = home f.1.2 ++ [nameOf f] ∧ FileStore.IsName (nameOf f) ∧
      Path.extension? (nameOf f) = some "csv" := by
  obtain ⟨count, -, hp, hn⟩ := h.named f hf
  have name : nameOf f = fileName f.1.1 count := by simp [nameOf, hp]
  rw [name]
  exact ⟨hp, hn, extension?_fileName _ _⟩

/-- The files in a directory are those that were opened there. -/
theorem Holds.namesIn_perm (h : Holds home s lines b) (columns : List String) :
    (b.files.namesIn (home columns)).Perm
      ((b.output.openFiles.filter fun f => home f.1.2 = home columns).map nameOf) := by
  have distinct : ((b.output.openFiles.filter fun f => home f.1.2 = home columns).map nameOf).Nodup := by
    refine List.Nodup.map_on ?_ (h.keys.of_map.filter _)
    intro f hf f' hf' same
    simp only [List.mem_filter, decide_eq_true_eq] at hf hf'
    refine List.inj_on_of_nodup_map h.places hf.1 hf'.1 ?_
    rw [(h.place_eq hf.1).1, (h.place_eq hf'.1).1, hf.2, hf'.2, same]
  refine (List.perm_ext_iff_of_nodup (h.names columns) distinct).2 fun name => ?_
  rw [FileStore.mem_namesIn]
  simp only [List.mem_map, List.mem_filter, decide_eq_true_eq]
  constructor
  · intro he
    obtain ⟨f, hf, hp⟩ := List.mem_map.1 (h.nothingElse columns name he)
    rw [(h.place_eq hf).1] at hp
    obtain ⟨same, rfl⟩ := List.append_singleton_inj.1 hp
    exact ⟨f, ⟨hf, same⟩, rfl⟩
  · rintro ⟨f, ⟨hf, same⟩, rfl⟩
    rw [← same, ← (h.place_eq hf).1, h.content f hf]
    rfl

/-! ## One row -/

theorem Holds.nothingElse_put (h : Holds home s lines b) {place : Place} {e : Entry}
    {columns : List String} {name : String}
    (he : (FileStore.entry? (b.files.put place e) (home columns ++ [name])).isSome) :
    home columns ++ [name] = place ∨ home columns ++ [name] ∈ b.output.openFiles.map Prod.snd := by
  by_cases hq : home columns ++ [name] = place
  · exact .inl hq
  · rw [FileStore.entry?_put_other _ hq] at he
    exact .inr (h.nothingElse columns name he)

/-- A row changes no file but its own. -/
theorem Holds.content_put (h : Holds home s lines b) {l : Line} {place : Place} {e : Entry}
    {f : FileKey × Place} (hf : f ∈ b.output.openFiles) (hk : l.key ≠ f.1) (other : f.2 ≠ place) :
    FileStore.entry? (b.files.put place e) f.2 = some (.file (contentOf f.1 (lines ++ [l]))) := by
  rw [contentOf_append, if_neg hk, FileStore.entry?_put_other _ other, h.content f hf]

/-- A row goes to the end of its file, if that is open. -/
theorem Holds.append (h : Holds home s lines b) (l : Line) {place : Place}
    (hm : (l.key, place) ∈ b.output.openFiles) :
    Holds home s (lines ++ [l])
      { b with files := b.files.append place (Csv.rowBytes l.row.cells) } := by
  obtain ⟨count, hlt, hp, hn⟩ := h.named _ hm
  have old := h.content _ hm
  dsimp only at hp old
  have given : place ≠ [] := by simp [hp]
  rw [FileStore.append_eq_put old]
  exact {
    keeps := h.keeps.trans (FileStore.keeps_put (by simp [old]) _)
    keys := h.keys
    places := h.places
    opened := by
      intro key
      rw [h.opened key]
      simp only [List.mem_append, List.mem_singleton, or_and_right, exists_or, exists_eq_left]
      refine ⟨.inl, fun hl => hl.elim id ?_⟩
      rintro rfl
      exact (h.opened _).1 (List.mem_map_of_mem hm)
    named := h.named
    content := by
      intro f hf
      by_cases hk : l.key = f.1
      · obtain rfl : f = (l.key, place) := List.inj_on_of_nodup_map h.keys hf hm hk.symm
        rw [contentOf_append, if_pos rfl, FileStore.entry?_put_self _ given]
      · refine h.content_put hf hk fun he => hk ?_
        exact (congrArg Prod.fst (List.inj_on_of_nodup_map h.places hf hm he)).symm
    nothingElse := by
      intro columns name he
      rcases h.nothingElse_put he with hq | hq
      · rw [hq]
        exact List.mem_map_of_mem (f := Prod.snd) hm
      · exact hq
    names := fun columns => FileStore.nodup_namesIn_put (h.names columns) _ _ }

/-- The first row of a file comes after its columns. -/
theorem Holds.create (h : Holds home s lines b) (l : Line)
    (closed : l.key ∉ b.output.openFiles.map Prod.fst) {place : Place}
    (hp : place = home l.row.columns ++ [fileName l.stem ((b.output.counts.get? l.stem).getD 0)])
    (hn : FileStore.IsName (fileName l.stem ((b.output.counts.get? l.stem).getD 0))) :
    Holds home s (lines ++ [l])
      ⟨b.files.put place (.file (Csv.rowBytes l.row.columns ++ Csv.rowBytes l.row.cells)),
        { b.output with
          counts := b.output.counts.insert l.stem ((b.output.counts.get? l.stem).getD 0 + 1)
          openFiles := (l.key, place) :: b.output.openFiles }⟩ := by
  have fresh := h.fresh l.stem l.row.columns
  rw [← hp] at fresh
  have given : place ≠ [] := by simp [hp]
  -- Nothing stands at the new place: whatever stands in a directory is an open file.
  have none : (b.files.entry? place).isSome = false := by
    rw [Bool.eq_false_iff]
    intro hs
    rw [hp] at hs fresh
    exact fresh (h.nothingElse _ _ hs)
  have unread : ∀ l' ∈ lines, l'.key ≠ l.key := by
    intro l' hl he
    exact closed ((h.opened _).2 ⟨l', hl, he⟩)
  exact {
    keeps := h.keeps.trans (FileStore.keeps_put (fun hd => by simp [hd] at none) _)
    keys := List.nodup_cons.2 ⟨closed, h.keys⟩
    places := List.nodup_cons.2 ⟨fresh, h.places⟩
    opened := by
      intro key
      rw [List.map_cons, List.mem_cons, h.opened key, or_comm, eq_comm]
      simp only [List.mem_append, List.mem_singleton, or_and_right, exists_or, exists_eq_left]
    named := by
      intro f hf
      rcases List.mem_cons.1 hf with rfl | hf
      · refine ⟨_, ?_, hp, hn⟩
        rw [Line.key, KeyMap.get?_insert_self]
        exact Nat.lt_succ_self _
      · obtain ⟨count, hlt, hf⟩ := h.named f hf
        refine ⟨count, ?_, hf⟩
        by_cases hs : f.1.1 = l.stem
        · rw [hs] at hlt ⊢
          rw [KeyMap.get?_insert_self]
          exact Nat.lt_succ_of_lt hlt
        · rw [KeyMap.get?_insert_other _ _ hs]
          exact hlt
    content := by
      intro f hf
      rcases List.mem_cons.1 hf with rfl | hf
      · have empty : rowsOf l.key lines = [] := by
          rw [rowsOf, List.filter_eq_nil_iff.2 (by simpa using unread), List.map_nil]
        rw [contentOf_append, if_pos rfl, FileStore.entry?_put_self _ given, contentOf, empty]
        simp [Line.key]
      · refine h.content_put hf (fun he => ?_) fun he => ?_
        · exact closed (he ▸ List.mem_map_of_mem hf)
        · exact fresh (he ▸ List.mem_map_of_mem hf)
    nothingElse := by
      intro columns name he
      rcases h.nothingElse_put he with hq | hq
      · rw [hq]
        exact List.mem_cons_self
      · exact List.mem_cons_of_mem _ hq
    names := fun columns => FileStore.nodup_namesIn_put (h.names columns) _ _ }

/-- A text that can start the name of a file: neither a slash nor a point comes first. -/
def IsStem (stem : String) : Prop := ∃ c cs, stem.toList = c :: cs ∧ c ≠ '/' ∧ c ≠ '.'

/-- **A row that is written goes to the file of its key**, and to no other. -/
theorem Holds.writeRow (h : Holds home s lines b) {directory stem : String} {row : Row}
    (hd : s.LeadsTo directory (home row.columns)) (hs : IsStem stem)
    (hw : b.writeRow directory stem row = (.ok (), b')) :
    Holds home s (lines ++ [⟨stem, row⟩]) b' := by
  rw [BulkFiles.writeRow] at hw
  split at hw
  · rename_i place hl
    cases hw
    obtain ⟨before, after, hf, -⟩ := List.lookup_eq_some_iff.1 hl
    exact h.append ⟨stem, row⟩ (hf ▸ List.mem_append_right before List.mem_cons_self)
  · rename_i hl
    have closed : (stem, row.columns) ∉ b.output.openFiles.map Prod.fst := by
      intro hm
      obtain ⟨f, hf, he⟩ := List.mem_map.1 hm
      have := List.lookup_eq_none_iff.1 hl f hf
      rw [he] at this
      simp at this
    dsimp only at hw
    split at hw
    · cases hw
    · rename_i place hp
      cases hw
      obtain ⟨c, cs, hc, slash, point⟩ := hs
      have name := fileName_toList stem ((b.output.counts.get? stem).getD 0)
      obtain ⟨hp, hn⟩ := FileStore.isName_of_writable (by rw [name, hc, List.cons_append]) name slash
        point (slash_notMem_fileEnding _) (by simp [fileEnding]) (hd.mono h.keeps) (h.flat _) hp
      exact h.create ⟨stem, row⟩ closed hp hn

/-! ## All models -/

def nodeLine (n : Node) : Line := ⟨n.label, Neo4j.nodeRow n⟩

def relationLine (r : Relation) : Line := ⟨relationStem r, Neo4j.relationRow r⟩

/-- The rows of a model. -/
def modelLines (m : Model) : List Line :=
  m.elements.nodes.map nodeLine ++ m.elements.relations.map relationLine

/-- Files of nodes stand in one directory and files of relations in the other; the first column
tells them apart. -/
def homeOf (nodes relations : Place) (columns : List String) : Place :=
  if columns.head? = some Neo4j.labelColumn then nodes else relations

theorem isStem_of_checkLabel {label : String} (h : checkLabel label = .ok ()) (rest : String) :
    IsStem (label ++ rest) := by
  obtain ⟨c, cs, hl, hc⟩ := head_of_checkLabel h
  refine ⟨c, cs ++ rest.toList, by simp [hl], ?_, ?_⟩
  · rintro rfl
    exact absurd hc (by decide)
  · rintro rfl
    exact absurd hc (by decide)

/-- Elements are written in order, up to the last one if none fails. -/
theorem Holds.writeAll {α : Type} {write : BulkFiles → α → Except LoadError Unit × BulkFiles}
    (out : α → List Line) (step : ∀ x lines b b', Holds home s lines b → write b x = (.ok (), b') →
      Holds home s (lines ++ out x) b') {xs : List α} (h : Holds home s lines b)
    (hw : b.writeAll write xs = (.ok (), b')) : Holds home s (lines ++ xs.flatMap out) b' := by
  induction xs generalizing lines b with
  | nil =>
    cases hw
    rw [List.flatMap_nil, List.append_nil]
    exact h
  | cons x xs ih =>
    rw [BulkFiles.writeAll] at hw
    split at hw
    · rename_i b₁ hx
      rw [List.flatMap_cons, ← List.append_assoc]
      exact ih (step x lines b b₁ h hx) hw
    · cases hw

/-- A single row, after which only a count changes. -/
theorem writeRows_singleton {directory stem : String} {row : Row}
    (hw : b.writeRows directory stem [row] = (.ok (), b')) :
    b.writeRow directory stem row = (.ok (), b') := by
  simp only [writeRows] at hw
  split at hw
  · rename_i b₁ hb
    rw [hb, hw]
  · cases hw

section Neo4j

variable {c : BulkLoaderConfig} {nodes relations : Place}

theorem Holds.output_congr {b b' : BulkFiles} (h : Holds home s lines b) (hf : b'.files = b.files)
    (ho : b'.output.openFiles = b.output.openFiles) (hc : b'.output.counts = b.output.counts) :
    Holds home s lines b' := by
  obtain ⟨keeps, keys, places, opened, named, content, nothingElse, names⟩ := h
  refine ⟨?_, ?_, ?_, ?_, ?_, ?_, ?_, ?_⟩ <;> simp only [hf, ho, hc] <;> assumption

theorem Holds.writeNode (neo4j : c.format = .neo4j) (hd : s.LeadsTo c.nodeDirectory nodes) (n : Node)
    (h : Holds (homeOf nodes relations) s lines b) (hw : b.writeNode c n = (.ok (), b')) :
    Holds (homeOf nodes relations) s (lines ++ [nodeLine n]) b' := by
  rw [BulkFiles.writeNode, neo4j] at hw
  split at hw
  · cases hw
  rename_i hc
  split at hw
  · cases hw
  · rename_i b₁ hb
    cases hw
    have stem := isStem_of_checkLabel (Node.valid_iff.1 hc).2 ""
    rw [String.append_empty] at stem
    exact (h.writeRow hd stem (writeRows_singleton hb)).output_congr rfl rfl rfl

theorem Holds.writeRelation (neo4j : c.format = .neo4j) (hd : s.LeadsTo c.relationDirectory relations)
    (r : Relation) (h : Holds (homeOf nodes relations) s lines b)
    (hw : b.writeRelation c r = (.ok (), b')) :
    Holds (homeOf nodes relations) s (lines ++ [relationLine r]) b' := by
  rw [BulkFiles.writeRelation, neo4j] at hw
  split at hw
  · cases hw
  rename_i hc
  split at hw
  · cases hw
  · rename_i b₁ hb
    cases hw
    have start : (r.startLabel, r.startKey) ∈ r.ends := by simp [Relation.ends]
    have label := (Relation.Valid.ends hc start).2
    have stem : IsStem (relationStem r) := by
      simp only [relationStem, String.append_assoc]
      exact isStem_of_checkLabel label _
    exact (h.writeRow hd stem (writeRows_singleton hb)).output_congr rfl rfl rfl

theorem Holds.writeModel (neo4j : c.format = .neo4j) (hn : s.LeadsTo c.nodeDirectory nodes)
    (hr : s.LeadsTo c.relationDirectory relations) (m : Model)
    (h : Holds (homeOf nodes relations) s lines b) (hw : b.writeModel c m = (.ok (), b')) :
    Holds (homeOf nodes relations) s (lines ++ modelLines m) b' := by
  rw [BulkFiles.writeModel] at hw
  split at hw
  · cases hw
  · rename_i b₁ hb
    have written := h.writeAll (fun n => [nodeLine n]) (fun n _ _ _ => writeNode neo4j hn n) hb
    have both := written.writeAll (fun r => [relationLine r]) (fun r _ _ _ => writeRelation neo4j hr r) hw
    rw [← List.map_eq_flatMap, ← List.map_eq_flatMap, List.append_assoc] at both
    exact both

/-- **A run's files**: models that are all written into two empty directories leave there, file
by file, the rows of their elements and nothing else. -/
theorem holds_writeAll (neo4j : c.format = .neo4j) (hn : s.LeadsTo c.nodeDirectory nodes)
    (hr : s.LeadsTo c.relationDirectory relations) (noNodes : s.namesIn nodes = [])
    (noRelations : s.namesIn relations = []) {ms : List Model}
    (hw : BulkFiles.writeAll (writeModel c) ⟨s, {}⟩ ms = (.ok (), b)) :
    Holds (homeOf nodes relations) s (ms.flatMap modelLines) b := by
  have empty : ∀ columns, s.namesIn (homeOf nodes relations columns) = [] := by
    intro columns
    rw [homeOf]
    split <;> assumption
  exact (holds_empty empty).writeAll modelLines (fun m _ _ _ => Holds.writeModel neo4j hn hr m) hw

end Neo4j

end MetaGraph.BulkFiles

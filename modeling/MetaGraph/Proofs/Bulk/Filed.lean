/-
The files after any sequence of loads, some of which fail. Each file is named
after a stem and numbered, holds the columns it was made for and then the
rows of the elements that belong to it, and no two keys share a file. This
rests on where files come to stand: a stem that holds a slash is a path, and
where directories let it lead somewhere, it can lead to another key's file.
-/
import MetaGraph.Proofs.Bulk.Elements

namespace MetaGraph

namespace BulkFiles

open FileStore (InPlace FilesWritten)

/-! ## Files and what they hold -/

/-- Every number below the count of a stem was used once: for a file, or for one of the elements
whose file could not be made. -/
def Numbered (b : BulkFiles) (lost : List Element) (stem : String) : Prop :=
  ∃ unused : List Nat, unused.length = lost.countP (·.stem = stem) ∧
    ((b.output.openFiles.filter (·.1.1 = stem)).map nameOf ++ unused.map (fileName stem)).Perm
      ((List.range (b.numberOf stem)).map (fileName stem))

/-- The elements `done` were written, in this order, on top of the files `s`; for the elements
`lost` no file could be made. -/
structure Filed (c : BulkLoaderConfig) (s : FileStore) (done lost : List Element) (b : BulkFiles) :
    Prop where
  /-- Only files were written, and only those that are open. -/
  written : s.FilesWritten b.files
  untouched : ∀ p, p ∉ b.output.openFiles.map Prod.snd → b.files.entry? p = s.entry? p
  /-- Keys and files belong together one to one. -/
  keys : (b.output.openFiles.map Prod.fst).Nodup
  places : (b.output.openFiles.map Prod.snd).Nodup
  opened : ∀ key, key ∈ b.output.openFiles.map Prod.fst ↔ ∃ x ∈ done, x.key c.format = key
  /-- A file stands in the directory of its elements, under its name. -/
  placed : ∀ f ∈ b.output.openFiles, ∀ x ∈ done, x.key c.format = f.1 →
    ∃ q, s.LeadsTo (x.directory c) q ∧ f.2 = q ++ [nameOf f]
  numbered : ∀ stem, Numbered b lost stem
  /-- A file holds its columns, and then the rows that have its name and these columns. -/
  content : ∀ f ∈ b.output.openFiles,
    b.files.entry? f.2 = some (.file (contentOf f.1 (done.flatMap (Element.lines c.format))))
  nodes : b.output.nodes = done.countP (·.isNode)
  relations : b.output.relations = done.countP (!·.isNode)

variable {c : BulkLoaderConfig} {s : FileStore} {done lost : List Element} {b : BulkFiles} {x : Element}

theorem filed_empty (c : BulkLoaderConfig) (s : FileStore) : Filed c s [] [] ⟨s, {}⟩ where
  written := .refl s
  untouched _ _ := rfl
  keys := .nil
  places := .nil
  opened key := by simp
  placed _ hf := nomatch hf
  numbered stem := ⟨[], rfl, .refl _⟩
  content _ hf := nomatch hf
  nodes := rfl
  relations := rfl

/-- The name of an open file is that of a number below the count of its stem. -/
theorem Numbered.name_of_mem {f : FileKey × Place} (h : Numbered b lost f.1.1)
    (hf : f ∈ b.output.openFiles) : ∃ i < b.numberOf f.1.1, nameOf f = fileName f.1.1 i := by
  obtain ⟨unused, -, perm⟩ := h
  have own : f ∈ b.output.openFiles.filter (·.1.1 = f.1.1) := List.mem_filter.2 ⟨hf, by simp⟩
  obtain ⟨i, hi, name⟩ :=
    List.mem_map.1 (perm.subset (List.mem_append_left _ (List.mem_map_of_mem (f := nameOf) own)))
  exact ⟨i, List.mem_range.1 hi, name.symm⟩

/-- No open file has the name of the next one. -/
theorem Filed.fresh (h : Filed c s done lost b) (q : Place) (stem : String) :
    q ++ [fileName stem (b.numberOf stem)] ∉ b.output.openFiles.map Prod.snd := by
  intro hm
  obtain ⟨f, hf, hp⟩ := List.mem_map.1 hm
  obtain ⟨i, hi, name⟩ := (h.numbered f.1.1).name_of_mem hf
  have : nameOf f = fileName stem (b.numberOf stem) := by simp [nameOf, hp]
  obtain ⟨rfl, rfl⟩ := fileName_inj (name.symm.trans this)
  exact Nat.lt_irrefl _ hi

theorem Filed.mem_of_lookup {key : FileKey} {place : Place}
    (hl : b.output.openFiles.lookup key = some place) : (key, place) ∈ b.output.openFiles := by
  obtain ⟨before, after, hf, -⟩ := List.lookup_eq_some_iff.1 hl
  exact hf ▸ List.mem_append_right before List.mem_cons_self

theorem Filed.closed_of_lookup {key : FileKey} (hl : b.output.openFiles.lookup key = none) :
    key ∉ b.output.openFiles.map Prod.fst := by
  intro hm
  obtain ⟨f, hf, rfl⟩ := List.mem_map.1 hm
  simpa using List.lookup_eq_none_iff.1 hl f hf

/-! ## One element -/

theorem Filed.opened_append (h : Filed c s done lost b) (key : FileKey) :
    (key = x.key c.format ∨ key ∈ b.output.openFiles.map Prod.fst) ↔
      ∃ y ∈ done ++ [x], y.key c.format = key := by
  rw [h.opened key]
  simp only [List.mem_append, List.mem_singleton, or_and_right, exists_or, exists_eq_left]
  rw [or_comm, eq_comm]

/-- An element whose file is open goes to the end of it. -/
theorem Filed.append (h : Filed c s done lost b) {place : Place}
    (hm : (x.key c.format, place) ∈ b.output.openFiles) :
    Filed c s (done ++ [x]) lost
      ⟨b.files.put place
        (.file (contentOf (x.key c.format) (done.flatMap (Element.lines c.format)) ++ x.content c.format)),
        x.counted b.output⟩ := by
  have stands := h.content _ hm
  have given : place ≠ [] := by
    rintro rfl
    cases stands
  have known : x.key c.format ∈ b.output.openFiles.map Prod.fst := List.mem_map_of_mem (f := Prod.fst) hm
  refine {
    written := h.written.put (by rw [stands]; nofun) _
    untouched := ?_
    keys := by simpa using h.keys
    places := by simpa using h.places
    opened := ?_
    placed := ?_
    numbered := fun stem => by simpa [Numbered, numberOf] using h.numbered stem
    content := ?_
    nodes := by rw [Element.counted_nodes, h.nodes, List.countP_append]
    relations := by rw [Element.counted_relations, h.relations, List.countP_append] }
  · intro p hp
    rw [Element.counted_openFiles] at hp
    have other : p ≠ place := by
      rintro rfl
      exact hp (List.mem_map_of_mem (f := Prod.snd) hm)
    rw [FileStore.entry?_put_other _ other, h.untouched p hp]
  · intro key
    rw [Element.counted_openFiles, ← h.opened_append]
    exact ⟨.inr, fun hk => hk.elim (fun he => he ▸ known) id⟩
  · intro f hf y hy hk
    rw [Element.counted_openFiles] at hf
    rcases List.mem_append.1 hy with hy | hy
    · exact h.placed f hf y hy hk
    · -- The file was made for an earlier element, which has the same directory.
      obtain rfl := List.mem_singleton.1 hy
      obtain ⟨z, hz, hzk⟩ := (h.opened f.1).1 (List.mem_map_of_mem hf)
      rw [Element.directory_of_key_eq c (hk.trans hzk.symm)]
      exact h.placed f hf z hz hzk
  · intro f hf
    rw [Element.counted_openFiles] at hf
    rw [List.flatMap_append, List.flatMap_singleton, Element.contentOf_append_lines]
    split
    · rename_i hk
      obtain rfl : f = (x.key c.format, place) := List.inj_on_of_nodup_map h.keys hf hm hk.symm
      exact FileStore.entry?_put_self _ given _
    · rename_i hk
      have other : f.2 ≠ place := fun he =>
        hk (congrArg Prod.fst (List.inj_on_of_nodup_map h.places hf hm he)).symm
      rw [FileStore.entry?_put_other _ other, h.content f hf]

/-- A file that can be made stands in the directory of its element. -/
theorem Filed.place_of_writable (h : Filed c s done lost b) (valid : x.Valid) (given : x.directory c ≠ "")
    (inPlace : s.InPlace (x.directory c) x.stem) {place : Place}
    (made : b.files.writable (b.nextPath (x.directory c) x.stem) = .ok place) :
    ∃ q, s.LeadsTo (x.directory c) q ∧ place = q ++ [fileName x.stem (b.numberOf x.stem)] := by
  obtain ⟨first, cs, hs, slash, point⟩ := valid.isStem
  have name := fileName_toList x.stem (b.numberOf x.stem)
  have ending := slash_notMem_fileEnding (b.numberOf x.stem)
  have inPlace : '/' ∉ (fileName x.stem (b.numberOf x.stem)).toList ∨
      ∀ q, b.files.LeadsTo (x.directory c) q → ∀ other, b.files.entry? (q ++ [other]) ≠ some .directory := by
    refine inPlace.imp (fun plain => ?_) fun flat q leads other => ?_
    · rw [name, List.mem_append]
      exact fun hm => hm.elim plain ending
    · rw [ne_eq, h.written.directory]
      exact flat q (leads.mono h.written.keeps_back) other
  obtain ⟨q, leads, hp⟩ := FileStore.place_of_writable_join given (by rw [name, hs, List.cons_append]) name
    slash point ending (by simp [fileEnding]) inPlace made
  exact ⟨q, leads.mono h.written.keeps_back, hp⟩

theorem Numbered.open {stem : String} (h : Numbered b lost stem) (key : FileKey) (place : Place)
    (name : nameOf (key, place) = fileName key.1 (b.numberOf key.1)) {files : FileStore} {output : BulkOutput}
    (opened : output.openFiles = (key, place) :: b.output.openFiles)
    (counts : output.counts = (b.withNumber key.1).counts) : Numbered ⟨files, output⟩ lost stem := by
  obtain ⟨unused, length, perm⟩ := h
  refine ⟨unused, length, ?_⟩
  rw [numberOf_withNumber counts]
  simp only [opened]
  split
  · rename_i he
    subst he
    rw [List.filter_cons_of_pos (by simp), List.map_cons, name, List.range_succ, List.map_append]
    exact (perm.cons _).trans (List.perm_append_singleton _ _).symm
  · rename_i he
    rwa [List.filter_cons_of_neg (by simpa using Ne.symm he)]

theorem Numbered.lose {stem : String} (h : Numbered b lost stem) (x : Element) :
    Numbered { b with output := b.withNumber x.stem } (lost ++ [x]) stem := by
  obtain ⟨unused, length, perm⟩ := h
  by_cases he : stem = x.stem
  · refine ⟨unused ++ [b.numberOf stem], by simp [length, he], ?_⟩
    rw [numberOf_withNumber rfl, if_pos he, ← he, List.range_succ, List.map_append, List.map_append,
      ← List.append_assoc]
    exact perm.append_right _
  · refine ⟨unused, by simp [length, Ne.symm he], ?_⟩
    rw [numberOf_withNumber rfl, if_neg he]
    exact perm

/-- The first element of a file makes it. -/
theorem Filed.create (h : Filed c s done lost b) (valid : x.Valid) (given : x.directory c ≠ "")
    (inPlace : s.InPlace (x.directory c) x.stem) (closed : x.key c.format ∉ b.output.openFiles.map Prod.fst)
    {place : Place} (made : b.files.writable (b.nextPath (x.directory c) x.stem) = .ok place) :
    Filed c s (done ++ [x]) lost
      ⟨b.files.put place (.file (Csv.rowBytes (x.columns c.format) ++ x.content c.format)),
        x.counted { b.withNumber x.stem with
          openFiles := (x.key c.format, place) :: b.output.openFiles }⟩ := by
  obtain ⟨q, leads, hp⟩ := h.place_of_writable valid given inPlace made
  have fresh : place ∉ b.output.openFiles.map Prod.snd := hp ▸ h.fresh q x.stem
  have name : nameOf (x.key c.format, place) = fileName x.stem (b.numberOf x.stem) := by simp [nameOf, hp]
  have none : ∀ y ∈ done, y.key c.format ≠ x.key c.format := fun y hy he =>
    closed ((h.opened _).2 ⟨y, hy, he⟩)
  refine {
    written := h.written.put (FileStore.resolve_of_writable made).2 _
    untouched := ?_
    keys := by simpa using ⟨by simpa using closed, h.keys⟩
    places := by simpa using ⟨by simpa using fresh, h.places⟩
    opened := ?_
    placed := ?_
    numbered := fun stem =>
      (h.numbered stem).open (x.key c.format) place name (by simp) (by simp [Element.key])
    content := ?_
    nodes := by rw [Element.counted_nodes, List.countP_append]; exact congrArg (· + _) h.nodes
    relations := by rw [Element.counted_relations, List.countP_append]; exact congrArg (· + _) h.relations }
  · intro p hp
    rw [Element.counted_openFiles] at hp
    obtain ⟨other, hp⟩ := not_or.1 fun hm => hp (List.mem_cons.2 hm)
    rw [FileStore.entry?_put_other _ other, h.untouched p hp]
  · intro key
    rw [Element.counted_openFiles, ← h.opened_append]
    exact List.mem_cons
  · intro f hf y hy hk
    rw [Element.counted_openFiles] at hf
    rcases List.mem_cons.1 hf with rfl | old
    · rw [Element.directory_of_key_eq c hk, name]
      exact ⟨q, leads, hp⟩
    · rcases List.mem_append.1 hy with hy | hy
      · exact h.placed f old y hy hk
      · rw [List.mem_singleton.1 hy] at hk
        exact absurd (hk ▸ List.mem_map_of_mem (f := Prod.fst) old) closed
  · intro f hf
    rw [Element.counted_openFiles] at hf
    rw [List.flatMap_append, List.flatMap_singleton, Element.contentOf_append_lines]
    rcases List.mem_cons.1 hf with rfl | old
    · rw [if_pos rfl, FileStore.entry?_put_self _ (by simp [hp]), contentOf,
        Element.rowsOf_of_none none, List.flatMap_nil, List.append_nil]
      rfl
    · have other : f.2 ≠ place := fun he => fresh (he ▸ List.mem_map_of_mem (f := Prod.snd) old)
      have unlike : x.key c.format ≠ f.1 := fun hk =>
        closed (hk ▸ List.mem_map_of_mem (f := Prod.fst) old)
      rw [if_neg unlike, FileStore.entry?_put_other _ other, h.content f old]

/-- An element whose file cannot be made changes nothing but the next number. -/
theorem Filed.lose (h : Filed c s done lost b) (x : Element) :
    Filed c s done (lost ++ [x]) { b with output := b.withNumber x.stem } :=
  { h with numbered := fun stem => (h.numbered stem).lose x }

/-- In `s` there is a number with which no file of the element can be made. -/
def Unwritable (c : BulkLoaderConfig) (s : FileStore) (x : Element) : Prop :=
  ∃ n e, s.writable (Path.join (x.directory c) (fileName x.stem n)) = .error e

/-- An element fails its check, is lost because its file cannot be made, or is written. -/
theorem Filed.write (h : Filed c s done lost b) (given : x.directory c ≠ "")
    (inPlace : s.InPlace (x.directory c) x.stem) :
    (∃ e, x.check = .error e ∧ x.write c b = (.error (.graph e), b)) ∨
      (x.Valid ∧ Unwritable c s x ∧
        ∃ e b', x.write c b = (.error (.csv (.io e)), b') ∧ Filed c s done (lost ++ [x]) b') ∨
      (x.Valid ∧ ∃ b', x.write c b = (.ok (), b') ∧ Filed c s (done ++ [x]) lost b') := by
  cases hx : x.check with
  | error e => exact .inl ⟨e, rfl, Element.write_invalid hx⟩
  | ok =>
    have valid : x.Valid := hx
    right
    cases hl : b.output.openFiles.lookup (x.key c.format) with
    | some place =>
      have hm := Filed.mem_of_lookup hl
      exact .inr ⟨valid, _, Element.write_open valid hl (h.content _ hm), h.append hm⟩
    | none =>
      cases hw : b.files.writable (b.nextPath (x.directory c) x.stem) with
      | error e =>
        refine .inl ⟨valid, ?_, e, _, Element.write_unopened valid hl hw, h.lose x⟩
        cases hs : s.writable (b.nextPath (x.directory c) x.stem) with
        | error e => exact ⟨_, e, hs⟩
        | ok p =>
          -- What could be written at first can still be written.
          rw [h.written.writable hs] at hw
          cases hw
      | ok place =>
        exact .inr ⟨valid, _, Element.write_created valid hl hw,
          h.create valid given inPlace (Filed.closed_of_lookup hl) hw⟩

/-! ## Any loads -/

/-- What becomes of elements that are written in order: all of them are, or the first that fails
its check or whose file cannot be made ends it, and those before it stay written. -/
inductive Writes (c : BulkLoaderConfig) (s : FileStore) (xs : List Element) :
    Except LoadError Unit → List Element → List Element → Prop where
  | whole (valid : ∀ x ∈ xs, x.Valid) : Writes c s xs (.ok ()) xs []
  | invalid {before x after e} (parts : xs = before ++ x :: after) (valid : ∀ y ∈ before, y.Valid)
      (failed : x.check = .error e) : Writes c s xs (.error (.graph e)) before []
  | unopened {before x after e} (parts : xs = before ++ x :: after) (valid : ∀ y ∈ before, y.Valid)
      (fit : x.Valid) (failed : Unwritable c s x) : Writes c s xs (.error (.csv (.io e))) before [x]

theorem Writes.cons {xs done lost : List Element} {result : Except LoadError Unit} (first : x.Valid)
    (h : Writes c s xs result done lost) : Writes c s (x :: xs) result (x :: done) lost := by
  cases h with
  | whole valid => exact .whole (List.forall_mem_cons.2 ⟨first, valid⟩)
  | invalid parts valid failed =>
    exact .invalid (congrArg (x :: ·) parts) (List.forall_mem_cons.2 ⟨first, valid⟩) failed
  | unopened parts valid fit failed =>
    exact .unopened (congrArg (x :: ·) parts) (List.forall_mem_cons.2 ⟨first, valid⟩) fit failed

theorem Filed.writeAll {xs : List Element} (h : Filed c s done lost b)
    (given : ∀ x : Element, x.directory c ≠ "") (inPlace : ∀ x ∈ xs, s.InPlace (x.directory c) x.stem) :
    ∃ result b' written unopened, b.writeAll (fun b x => x.write c b) xs = (result, b') ∧
      Writes c s xs result written unopened ∧ Filed c s (done ++ written) (lost ++ unopened) b' := by
  induction xs generalizing b done with
  | nil => exact ⟨_, _, [], [], rfl, .whole nofun, by simpa using h⟩
  | cons x xs ih =>
    obtain ⟨here, inPlace⟩ := List.forall_mem_cons.1 inPlace
    rw [BulkFiles.writeAll]
    rcases h.write (given x) here with ⟨e, failed, hw⟩ | ⟨valid, failed, e, b', hw, h'⟩ | ⟨valid, b', hw, h'⟩
    · rw [hw]
      exact ⟨_, _, [], [], rfl, .invalid (List.nil_append _).symm nofun failed, by simpa using h⟩
    · rw [hw]
      exact ⟨_, _, [], [x], rfl, .unopened (List.nil_append _).symm nofun valid failed, by simpa using h'⟩
    · rw [hw]
      obtain ⟨result, b'', written, unopened, hr, writes, filed⟩ := ih h' inPlace
      exact ⟨result, b'', x :: written, unopened, hr, writes.cons valid, by simpa using filed⟩

/-- The elements of a payload; a record has none. -/
def payloadElements : Payload → List Element
  | .model m => m.pulled
  | .record _ => []

/-- Loads in a row, whether they fail or not. -/
def loadAll (c : BulkLoaderConfig) (b : BulkFiles) :
    List Payload → List (Except LoadError Unit) × BulkFiles
  | [] => ([], b)
  | p :: ps =>
    let (result, b) := (BulkLoader.load c).load p b
    let (results, b) := loadAll c b ps
    (result :: results, b)

/-- What becomes of loads in a row: records are refused, and of models the elements are written. -/
inductive Loads (c : BulkLoaderConfig) (s : FileStore) :
    List Payload → List (Except LoadError Unit) → List Element → List Element → Prop where
  | nil : Loads c s [] [] [] []
  | record {r ps results done lost} (rest : Loads c s ps results done lost) :
      Loads c s (.record r :: ps) (.error (.unsupportedPayload BulkLoader.scopeName "record") :: results)
        done lost
  | model {m ps result results written unopened done lost}
      (first : Writes c s m.pulled result written unopened)
      (rest : Loads c s ps results done lost) :
      Loads c s (.model m :: ps) (result :: results) (written ++ done) (unopened ++ lost)

theorem Filed.loadAll {ps : List Payload} (h : Filed c s done lost b)
    (given : ∀ x : Element, x.directory c ≠ "")
    (inPlace : ∀ x ∈ ps.flatMap payloadElements, s.InPlace (x.directory c) x.stem) :
    ∃ written unopened, Loads c s ps (loadAll c b ps).1 written unopened ∧
      Filed c s (done ++ written) (lost ++ unopened) (loadAll c b ps).2 := by
  induction ps generalizing b done lost with
  | nil => exact ⟨[], [], .nil, by simpa [BulkFiles.loadAll] using h⟩
  | cons p ps ih =>
    rw [List.flatMap_cons, List.forall_mem_append] at inPlace
    obtain ⟨now, later⟩ := inPlace
    cases p with
    | record r =>
      obtain ⟨written, unopened, loads, filed⟩ := ih h later
      exact ⟨written, unopened, .record loads, filed⟩
    | model m =>
      obtain ⟨result, b', written, unopened, hw, writes, h'⟩ := h.writeAll given now
      have step : (BulkLoader.load c).load (.model m) b = (result, b') := by
        rw [← hw, payloadElements, ← writeModel_eq]
        rfl
      obtain ⟨written', unopened', loads, filed⟩ := ih h' later
      rw [List.append_assoc, List.append_assoc] at filed
      rw [BulkFiles.loadAll, step]
      exact ⟨written ++ written', unopened ++ unopened', .model writes loads, filed⟩

/-- Both directories of a sink that is ready were named. -/
theorem directory_of_prepare {scope : Scope} {s₀ : FileStore} (ready : prepare scope c s₀ = (.ok (), s))
    (x : Element) : x.directory c ≠ "" := by
  rw [prepare] at ready
  split at ready
  · cases ready
  split at ready
  · cases ready
  cases x <;> assumption

/-- **The files of any sequence of loads** into a sink that is ready, in both formats, whichever of
the loads fail and as long as each file stands in its directory. An element that is written has one
file, which its key tells, and all its rows are there; what was written before an element that
fails stays written. -/
theorem loads_filed {scope : Scope} {s₀ : FileStore} (ready : prepare scope c s₀ = (.ok (), s))
    {ps : List Payload} (inPlace : ∀ x ∈ ps.flatMap payloadElements, s.InPlace (x.directory c) x.stem) :
    ∃ done lost, Loads c s ps (loadAll c ⟨s, {}⟩ ps).1 done lost ∧
      Filed c s done lost (loadAll c ⟨s, {}⟩ ps).2 ∧
      ∀ x ∈ done, ∃ f ∈ (loadAll c ⟨s, {}⟩ ps).2.output.openFiles,
        (∀ l ∈ x.lines c.format, l.key = f.1) ∧
          ∀ other ∈ (loadAll c ⟨s, {}⟩ ps).2.output.openFiles, other.1 = f.1 → other = f := by
  obtain ⟨done, lost, loads, filed⟩ := (filed_empty c s).loadAll (directory_of_prepare ready) inPlace
  refine ⟨done, lost, loads, filed, fun x hx => ?_⟩
  have hx : x ∈ [] ++ done := hx
  obtain ⟨f, hf, hk⟩ := List.mem_map.1 ((filed.opened _).2 ⟨x, hx, rfl⟩)
  refine ⟨f, hf, fun l hl => (Element.key_of_mem_lines hl).trans hk.symm, fun other ho same => ?_⟩
  exact List.inj_on_of_nodup_map filed.keys ho hf same

/-- The badge `pk` on what is labelled `label`. -/
def badged (label : String) : Payload :=
  let s : BadgeSet := ⟨label, "k", [⟨"pk", "column"⟩]⟩
  .model ⟨.badge s, s.elements⟩

/-- A sink for Neptune. -/
def neptuneSink (relationDirectory : String) : BulkLoaderConfig :=
  { nodeDirectory := "/nodes", relationDirectory, format := .neptune }

/-- What becomes of an empty tree of files when a sink is made ready there. -/
def madeReady (c : BulkLoaderConfig) : Except ConfigError Unit × FileStore :=
  prepare (.empty BulkLoader.scopeName) c {}

/-- A badge on a column and, after a record and a badge on what has no capital, one on a table. -/
def mixedLoads : List Payload := [badged "Column", .record [], badged "column", badged "Table"]

/-- Three nodes are written, since the badge that fails has handed out its node, and two relations. -/
theorem loads_filed_mixedLoads :
    madeReady (neptuneSink "/rels") = (.ok (), (madeReady (neptuneSink "/rels")).2) ∧
      (∀ x ∈ mixedLoads.flatMap payloadElements, '/' ∉ x.stem.toList) ∧
      ∃ done lost, Loads (neptuneSink "/rels") (madeReady (neptuneSink "/rels")).2 mixedLoads
          (loadAll (neptuneSink "/rels") ⟨(madeReady (neptuneSink "/rels")).2, {}⟩ mixedLoads).1 done lost ∧
        done.countP (·.isNode) = 3 ∧ done.countP (!·.isNode) = 2 := by
  have ready : madeReady (neptuneSink "/rels") = (.ok (), (madeReady (neptuneSink "/rels")).2) := by rfl
  have plain : ∀ x ∈ mixedLoads.flatMap payloadElements, '/' ∉ x.stem.toList := by decide +kernel
  obtain ⟨done, lost, loads, filed, -⟩ := loads_filed ready fun x hx => .inl (plain x hx)
  exact ⟨ready, plain, done, lost, loads, filed.nodes.symm.trans (by decide +kernel),
    filed.relations.symm.trans (by decide +kernel)⟩

/-- A directory of relations that is reached through a directory in it, so that making the one makes
the other. -/
def detour : BulkLoaderConfig := neptuneSink "/rels/B/.."

/-- The badge on what is labelled `B/X`, and then on what is labelled `B/./X`. -/
def detouredLoads : List (Except LoadError Unit) × BulkFiles :=
  loadAll detour ⟨(madeReady detour).2, {}⟩ [badged "B/X", badged "B/./X"]

/-- **Two keys can share a file**: through the directory in that of the relations both labels lead
to one place, where the second file takes the place of the first. Both relations are counted, and
the rows of one of them are left. -/
theorem file_shared :
    (madeReady detour).1 = .ok () ∧ detouredLoads.1 = [.ok (), .ok ()] ∧
      detouredLoads.2.output.relations = 2 ∧
      ∃ f ∈ detouredLoads.2.output.openFiles, ∃ g ∈ detouredLoads.2.output.openFiles,
        f.1 ≠ g.1 ∧ f.2 = ["rels", "B", "X_Badge_HAS_BADGE_0.csv"] ∧ g.2 = f.2 ∧
          detouredLoads.2.files.entry? f.2 =
            some (.file (contentOf f.1 (Element.lines .neptune (.relation
              ⟨"B/./X", "k", "Badge", "pk", "HAS_BADGE", "BADGE_FOR", []⟩)))) := by
  decide +kernel

end BulkFiles

end MetaGraph

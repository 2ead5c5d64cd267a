/-
A script tells what the models emit. Elements reach the script through files,
where they are grouped by what the files are named after and by their columns;
the files are found again by their names, and read in the order of these. The
main statement says that nothing is lost, made twice or mixed up on the way.
-/
import Mathlib.Data.List.Perm.Basic
import MetaGraph.Proofs.Bulk.Written
import MetaGraph.Proofs.Csv.RoundTrip
import MetaGraph.Proofs.Cypher.Output
import MetaGraph.Proofs.Cypher.Sheets
import MetaGraph.Proofs.KeyMap
import MetaGraph.Proofs.Run.Claimed

namespace MetaGraph.Cypher

open BulkFiles

/-! ## Files that are found again -/

section Files

variable {home : List String → Place} {s : FileStore} {lines : List Line} {b : BulkFiles}
  {directory : String} {columns : List String}

/-- The publisher finds the files of a directory, in some order. -/
theorem csvFiles_perm (h : Holds home s lines b) (hd : s.LeadsTo directory (home columns)) :
    ∃ files : List (FileKey × Place),
      files.Perm (b.output.openFiles.filter fun f => home f.1.2 = home columns) ∧
      CypherPublisher.csvFiles b.files directory =
        .ok (files.map fun f => Path.join directory (nameOf f)) := by
  have found := (hd.mono h.keeps).find
  have names := h.namesIn_perm columns
  have csv : (b.files.namesIn (home columns)).filter (fun n => Path.extension? n == some "csv") =
      b.files.namesIn (home columns) := by
    refine List.filter_eq_self.2 fun name hn => ?_
    obtain ⟨f, hf, rfl⟩ := List.mem_map.1 (names.mem_iff.1 hn)
    rw [(h.place_eq (List.mem_filter.1 hf).1).2.2]
    rfl
  have sorted := (List.mergeSort_perm (b.files.namesIn (home columns)) fun a b => decide (a ≤ b)).trans names
  -- The names are sorted, and the open files are put in the order of their names.
  obtain ⟨files, hs, hp⟩ := (congrFun (congrFun (List.eq_map_comp_perm nameOf) _) _).mpr sorted
  refine ⟨files, hp, ?_⟩
  have present : b.files.pathExists directory = true := by
    rw [FileStore.pathExists, found]
    rfl
  have listed : b.files.list directory = .ok (b.files.namesIn (home columns)) := by
    rw [FileStore.list, found]
    rfl
  rw [CypherPublisher.csvFiles, if_pos present, listed]
  simp only [csv]
  rw [hs, List.map_map]
  rfl

/-- A file is read as the rows that were written to it. -/
theorem read_file (h : Holds home s lines b) (hd : s.LeadsTo directory (home columns))
    {f : FileKey × Place} (hf : f ∈ b.output.openFiles) (hh : home f.1.2 = home columns)
    (given : f.1.2 ≠ []) :
    Sheet.read b.files (Path.join directory (nameOf f)) =
      .ok { path := Path.join directory (nameOf f), header := f.1.2, rows := rowsOf f.1 lines } := by
  obtain ⟨place, name, -⟩ := h.place_eq hf
  have entry := h.content f hf
  rw [place, hh] at entry
  have found := FileStore.find_join (hd.mono h.keeps) name entry
  have width : ∀ row ∈ rowsOf f.1 lines, row.length = f.1.2.length := by
    intro row hr
    obtain ⟨l, hl, rfl⟩ := List.mem_map.1 hr
    have key := of_decide_eq_true (List.mem_filter.1 hl).2
    rw [← key]
    simp [Line.key, Row.cells, Row.columns]
  obtain ⟨r, header, rows⟩ := Csv.Reader.read_written given width
  rw [Sheet.read, found]
  simp only [contentOf, header, rows]

/-- Elements by what they have in common, one group after the other, are all elements. -/
theorem groups_perm {α κ : Type} [DecidableEq κ] {f : α → κ} {keys : List κ} {xs : List α}
    (distinct : keys.Nodup) (all : ∀ x ∈ xs, f x ∈ keys) :
    (keys.flatMap fun k => xs.filter (f · = k)).Perm xs := by
  induction keys generalizing xs with
  | nil =>
    have : xs = [] := List.eq_nil_iff_forall_not_mem.2 fun x hx => nomatch all x hx
    rw [this]
    exact .refl _
  | cons k ks ih =>
    obtain ⟨new, distinct⟩ := List.nodup_cons.1 distinct
    -- What is not in the first group is grouped by the other keys, and they do not find more.
    have left : ∀ x ∈ xs.filter fun x => !decide (f x = k), f x ∈ ks := by
      intro x hx
      obtain ⟨hx, hk⟩ := List.mem_filter.1 hx
      exact (List.mem_cons.1 (all x hx)).resolve_left (by simpa using hk)
    have others := ih distinct left
    have same : (ks.flatMap fun k' => (xs.filter fun x => !decide (f x = k)).filter (f · = k')) =
        ks.flatMap fun k' => xs.filter (f · = k') := by
      refine List.flatMap_congr fun k' hk' => ?_
      have : k' ≠ k := by
        rintro rfl
        exact new hk'
      rw [List.filter_filter]
      refine List.filter_congr fun x _ => ?_
      by_cases hx : f x = k' <;> simp [hx, this]
    rw [List.flatMap_cons, ← same]
    exact (others.append_left _).trans (List.filter_append_perm _ xs)

/-- Of all lines those of the elements go to the directory of `columns`, and no others do. -/
structure Goes {α : Type} (home : List String → Place) (columns : List String) (lines : List Line)
    (toLine : α → Line) (xs : List α) : Prop where
  lines_of_key : ∀ key : FileKey, home key.2 = home columns →
    lines.filter (·.key = key) = (xs.filter fun x => (toLine x).key = key).map toLine
  stands : ∀ x ∈ xs, home (toLine x).row.columns = home columns ∧ (toLine x).row.columns ≠ []

/-- The elements whose rows are in a file. -/
def elementsIn {α : Type} (toLine : α → Line) (xs : List α) (f : FileKey × Place) : List α :=
  xs.filter fun x => (toLine x).key = f.1

variable {α : Type} {toLine : α → Line} {xs : List α}

theorem rowsOf_elementsIn (go : Goes home columns lines toLine xs) {f : FileKey × Place}
    (hh : home f.1.2 = home columns) :
    rowsOf f.1 lines = (elementsIn toLine xs f).map fun x => (toLine x).row.cells := by
  rw [rowsOf, go.lines_of_key f.1 hh, List.map_map]
  rfl

/-- No file is without rows. -/
theorem elementsIn_ne_nil (h : Holds home s lines b) (go : Goes home columns lines toLine xs)
    {f : FileKey × Place} (hf : f ∈ b.output.openFiles) (hh : home f.1.2 = home columns) :
    elementsIn toLine xs f ≠ [] := by
  intro none
  obtain ⟨l, hl, hk⟩ := (h.opened f.1).1 (List.mem_map_of_mem hf)
  have member : l ∈ lines.filter (·.key = f.1) := List.mem_filter.2 ⟨hl, by simpa using hk⟩
  rw [go.lines_of_key f.1 hh, show xs.filter _ = [] from none] at member
  cases member

theorem key_of_mem_elementsIn {f : FileKey × Place} {x : α} (hx : x ∈ elementsIn toLine xs f) :
    (toLine x).key = f.1 := by
  simpa using (List.mem_filter.1 hx).2

/-- The files of a directory hold all elements that go there, each in one of them. -/
theorem flatMap_elementsIn_perm (h : Holds home s lines b) (go : Goes home columns lines toLine xs)
    {files : List (FileKey × Place)}
    (hp : files.Perm (b.output.openFiles.filter fun f => home f.1.2 = home columns)) :
    (files.flatMap (elementsIn toLine xs)).Perm xs := by
  have distinct : (files.map Prod.fst).Nodup :=
    (hp.map Prod.fst).nodup_iff.2 (h.keys.sublist (List.filter_sublist.map Prod.fst))
  have all : ∀ x ∈ xs, (toLine x).key ∈ files.map Prod.fst := by
    intro x hx
    have hh := (go.stands x hx).1
    have member : toLine x ∈ lines.filter (·.key = (toLine x).key) := by
      rw [go.lines_of_key _ hh]
      exact List.mem_map_of_mem (List.mem_filter.2 ⟨hx, by simp⟩)
    obtain ⟨f, hf, hk⟩ := List.mem_map.1 ((h.opened _).2 ⟨_, (List.mem_filter.1 member).1, rfl⟩)
    rw [← hk]
    refine List.mem_map_of_mem (hp.mem_iff.2 (List.mem_filter.2 ⟨hf, ?_⟩))
    exact decide_eq_true (by rw [hk]; exact hh)
  have perm := groups_perm (f := fun x => (toLine x).key) distinct all
  rwa [List.flatMap_map] at perm

/-- The statements of all files in a directory are those of all elements that go there, if that
holds of a single sheet. -/
theorem settles_statements {parts : α → KeyMap Json} {statement : α → Statement}
    {make : Sheet → Except PublishError (List Statement)} (h : Holds home s lines b)
    (go : Goes home columns lines toLine xs) (hd : s.LeadsTo directory (home columns))
    (sheets : ∀ (sheet : Sheet) (ys : List α), ys ≠ [] →
      (∀ y ∈ ys, (toLine y).row.columns = sheet.header) →
      sheet.rows = ys.map (fun y => (toLine y).row.cells) → sheet.fault = none →
      Settles (ys.flatMap parts) (ys.map statement) (make sheet)) :
    ∃ paths statements, CypherPublisher.csvFiles b.files directory = .ok paths ∧
      statements.Perm (xs.map statement) ∧
      Settles (xs.flatMap parts) statements (CypherPublisher.statements b.files make paths) := by
  obtain ⟨files, hp, hc⟩ := csvFiles_perm h hd
  have sheet : ∀ f ∈ files, Settles ((elementsIn toLine xs f).flatMap parts)
      ((elementsIn toLine xs f).map statement)
      (Sheet.read b.files (Path.join directory (nameOf f)) >>= make) := by
    intro f hf
    obtain ⟨hf, hh⟩ := List.mem_filter.1 (hp.mem_iff.1 hf)
    have hh : home f.1.2 = home columns := of_decide_eq_true hh
    have used := elementsIn_ne_nil h go hf hh
    obtain ⟨y, hy⟩ := List.exists_mem_of_ne_nil _ used
    have given : f.1.2 ≠ [] := by
      rw [← key_of_mem_elementsIn hy]
      exact (go.stands y (List.mem_filter.1 hy).1).2
    rw [read_file h hd hf hh given]
    exact sheets _ _ used (fun y hy => congrArg Prod.snd (key_of_mem_elementsIn hy))
      (rowsOf_elementsIn go hh) rfl
  have all := flatMap_elementsIn_perm h go hp
  refine ⟨_, (files.map fun f => (elementsIn toLine xs f).map statement).flatten, hc, ?_, ?_⟩
  · rw [← List.flatMap_def, ← List.map_flatMap]
    exact all.map statement
  · rw [CypherPublisher.statements, List.mapM_map]
    refine ((Settles.mapM sheet).map List.flatten).congr fun a => ?_
    rw [← List.flatMap_assoc, List.mem_flatMap, List.mem_flatMap]
    simp only [all.mem_iff]

end Files

/-! ## All that models emit -/

/-- The nodes that the models emit. -/
def emittedNodes (ms : List Model) : List Node := ms.flatMap (·.elements.nodes)

/-- The relations that the models emit. -/
def emittedRelations (ms : List Model) : List Relation := ms.flatMap (·.elements.relations)

/-- The attributes of all that the models emit. -/
def emittedAttributes (ms : List Model) : List (String × Json) :=
  (emittedNodes ms).flatMap (·.attributes) ++ (emittedRelations ms).flatMap (·.attributes)

theorem modelLines_nodes {key : FileKey} (hk : key.2.head? = some Neo4j.labelColumn) (ms : List Model) :
    (ms.flatMap modelLines).filter (·.key = key) =
      ((emittedNodes ms).filter fun n => (nodeLine n).key = key).map nodeLine := by
  have other (r : Relation) : (relationLine r).key ≠ key := by
    rintro rfl
    simp [Line.key, relationLine, Neo4j.relationRow, Neo4j.relationColumns, Neo4j.relationValues,
      Neo4j.labelColumn, Row.columns] at hk
  simp only [emittedNodes, List.filter_flatMap, List.map_flatMap, modelLines, List.filter_append,
    List.filter_map]
  refine List.flatMap_congr fun m _ => ?_
  have none : (m.elements.relations.filter fun r => (relationLine r).key = key) = [] :=
    List.filter_eq_nil_iff.2 fun r _ => by simpa using other r
  simp [Function.comp_def, none]

theorem modelLines_relations {key : FileKey} (hk : key.2.head? ≠ some Neo4j.labelColumn)
    (ms : List Model) : (ms.flatMap modelLines).filter (·.key = key) =
      ((emittedRelations ms).filter fun r => (relationLine r).key = key).map relationLine := by
  have other (n : Node) : (nodeLine n).key ≠ key := by
    rintro rfl
    simp [Line.key, nodeLine, Neo4j.nodeRow, Row.columns] at hk
  simp only [emittedRelations, List.filter_flatMap, List.map_flatMap, modelLines, List.filter_append,
    List.filter_map]
  refine List.flatMap_congr fun m _ => ?_
  have none : (m.elements.nodes.filter fun n => (nodeLine n).key = key) = [] :=
    List.filter_eq_nil_iff.2 fun n _ => by simpa using other n
  simp [Function.comp_def, none]

/-- Nodes go to their own directory. -/
theorem goes_nodes {nodes relations : Place} (distinct : nodes ≠ relations) (ms : List Model) :
    Goes (homeOf nodes relations) [Neo4j.labelColumn] (ms.flatMap modelLines) nodeLine (emittedNodes ms) where
  lines_of_key key hk := by
    have hk : homeOf nodes relations key.2 = nodes := hk
    refine modelLines_nodes (Decidable.byContradiction fun other => distinct ?_) ms
    rw [← hk, homeOf, if_neg other]
  stands n _ := ⟨rfl, List.cons_ne_nil _ _⟩

/-- Relations go to theirs. -/
theorem goes_relations {nodes relations : Place} (distinct : nodes ≠ relations) (ms : List Model) :
    Goes (homeOf nodes relations) [] (ms.flatMap modelLines) relationLine (emittedRelations ms) where
  lines_of_key key hk := by
    have hk : homeOf nodes relations key.2 = relations := hk
    refine modelLines_relations (fun label => distinct ?_) ms
    rw [← hk, homeOf, if_pos label]
  stands r _ := ⟨rfl, List.cons_ne_nil _ _⟩

/-- The labels of a script are those of its nodes, each once. -/
theorem labels_spec {tag : String} {statements : List Statement} {ns : List Node}
    (h : statements.Perm (ns.map (nodeStatement tag))) :
    (labels statements).Nodup ∧ ∀ l, l ∈ labels statements ↔ ∃ n ∈ ns, n.label = l := by
  refine ⟨nodup_labels statements, fun l => ?_⟩
  rw [mem_labels]
  simp [h.mem_iff, Statement.nodeLabel?, nodeStatement]

/-! ## From the models to the script -/

/-- The sink and the publisher work on the same two directories, which are not one and hold
nothing yet. -/
structure SharedDirectories (s : FileStore) (c : BulkLoaderConfig) (p : CypherConfig)
    (nodes relations : Place) : Prop where
  loadNodes : s.find c.nodeDirectory = .ok (nodes, .directory)
  loadRelations : s.find c.relationDirectory = .ok (relations, .directory)
  publishNodes : s.find p.nodeDirectory = .ok (nodes, .directory)
  publishRelations : s.find p.relationDirectory = .ok (relations, .directory)
  distinct : nodes ≠ relations
  noNodes : s.namesIn nodes = []
  noRelations : s.namesIn relations = []

section Script

variable {s : FileStore} {c : BulkLoaderConfig} {p : CypherConfig} {nodes relations : Place}
  {ms : List Model} {b : BulkFiles}

/-- What is told of a script. -/
def reportOf (p : CypherConfig) (files : Nat) (ns rs : List Statement) : PublishReport where
  files
  nodes := ns.length
  relations := rs.length
  output := some p.outputPath

theorem settles_compile (neo4j : c.format = .neo4j) (dirs : SharedDirectories s c p nodes relations)
    (loaded : BulkFiles.writeAll (writeModel c) ⟨s, {}⟩ ms = (.ok (), b)) (tag : String) :
    ∃ ns rs files, ns.Perm ((emittedNodes ms).map (nodeStatement tag)) ∧
      rs.Perm ((emittedRelations ms).map (relationStatement tag)) ∧
      Settles (emittedAttributes ms) (script ns rs, reportOf p files ns rs)
        (CypherPublisher.compile p tag b.files) := by
  have h := holds_writeAll neo4j (FileStore.leadsTo_of_find dirs.loadNodes)
    (FileStore.leadsTo_of_find dirs.loadRelations) dirs.noNodes dirs.noRelations loaded
  have ofNodes : ∃ paths ns, CypherPublisher.csvFiles b.files p.nodeDirectory = .ok paths ∧
      ns.Perm ((emittedNodes ms).map (nodeStatement tag)) ∧
      Settles ((emittedNodes ms).flatMap (·.attributes)) ns
        (CypherPublisher.statements b.files (·.nodes tag) paths) :=
    settles_statements h (goes_nodes dirs.distinct ms) (FileStore.leadsTo_of_find dirs.publishNodes)
      fun sheet ys given hh hr hf => Sheet.settles_nodes given hh hr hf
  have ofRelations : ∃ paths rs, CypherPublisher.csvFiles b.files p.relationDirectory = .ok paths ∧
      rs.Perm ((emittedRelations ms).map (relationStatement tag)) ∧
      Settles ((emittedRelations ms).flatMap (·.attributes)) rs
        (CypherPublisher.statements b.files (·.relations tag) paths) :=
    settles_statements h (goes_relations dirs.distinct ms)
      (FileStore.leadsTo_of_find dirs.publishRelations)
      fun sheet ys given hh hr hf => Sheet.settles_relations given hh hr hf
  obtain ⟨nodePaths, ns, hcn, hpn, hn⟩ := ofNodes
  obtain ⟨relationPaths, rs, hcr, hpr, hr⟩ := ofRelations
  refine ⟨ns, rs, nodePaths.length + relationPaths.length, hpn, hpr, ?_⟩
  rw [CypherPublisher.compile, hcn, hcr]
  exact hn.bind (hr.map fun rs => (script ns rs, reportOf p (nodePaths.length + relationPaths.length) ns rs))

/-- **The script tells what the models emit.** Models are written into two empty directories,
and the publisher turns what it finds there into a script. If all attributes are fit, the
statements after the constraints are those of the nodes and then those of the relations, each
once, and there is one constraint for each label; where the script can be written, publishing
succeeds, counts what the models emit, and leaves the script in its file. If an attribute is unfit,
such a one is told and nothing is written. -/
theorem publish_loaded (neo4j : c.format = .neo4j) (dirs : SharedDirectories s c p nodes relations)
    (loaded : BulkFiles.writeAll (fun b m => (BulkLoader.load c).load (.model m) b) ⟨s, {}⟩ ms =
      (.ok (), b)) (tag : String) :
    ((∀ a ∈ emittedAttributes ms, Fit a) →
      ∃ (files : Nat) (labels : List String) (ns rs : List Statement), labels.Nodup ∧
      (∀ l, l ∈ labels ↔ ∃ n ∈ emittedNodes ms, n.label = l) ∧
      ns.Perm ((emittedNodes ms).map (nodeStatement tag)) ∧
      rs.Perm ((emittedRelations ms).map (relationStatement tag)) ∧
      CypherPublisher.publish p tag b.files =
        outcome ⟨files, (emittedNodes ms).length, (emittedRelations ms).length, some p.outputPath⟩
          (CypherPublisher.writeOutput b.files p.outputPath
            (scriptText (labels.map .unique ++ ns ++ rs))) ∧
      (CanWrite b.files p.outputPath → ∃ s', CypherPublisher.publish p tag b.files =
          (.ok ⟨files, (emittedNodes ms).length, (emittedRelations ms).length, some p.outputPath⟩, s') ∧
        s'.read p.outputPath = .ok (Utf8.encode (scriptText (labels.map .unique ++ ns ++ rs))))) ∧
    ((∃ a ∈ emittedAttributes ms, ¬ Fit a) → ∃ a ∈ emittedAttributes ms, ¬ Fit a ∧
      ∃ path, CypherPublisher.publish p tag b.files =
        (.error (.invalidUnquotedValue a.1 a.2.cellText path), b.files)) := by
  obtain ⟨ns, rs, files, hn, hr, compiled⟩ := settles_compile neo4j dirs loaded tag
  constructor
  · intro fit
    obtain ⟨once, each⟩ := labels_spec hn
    have nodesCount : ns.length = (emittedNodes ms).length := by rw [hn.length_eq, List.length_map]
    have relationsCount : rs.length = (emittedRelations ms).length := by
      rw [hr.length_eq, List.length_map]
    have made := compiled.ok fit
    rw [reportOf, nodesCount, relationsCount] at made
    exact ⟨files, labels ns, ns, rs, once, each, hn, hr, publish_of_compile made,
      fun possible => possible.publish made⟩
  · intro unfit
    obtain ⟨a, ha, bad, path, failed⟩ := compiled.error unfit
    exact ⟨a, ha, bad, path, publish_of_compile_error failed⟩

/-- Two statistics of a column, the second with a value of its own. -/
def twoStats (value : String) : List Model :=
  let record (name value : String) : ModelKind × Record :=
    (.columnStat, [("col_name", .text "id"), ("end_epoch", .text "2"), ("start_epoch", .text "1"),
      ("stat_name", .text name), ("stat_val", .text value), ("table_name", .text "core.orders")])
  (ModelKind.buildAll [record "max" "7", record "avg" value] {}).1

def twoDirectories : FileStore := { entries := [(["nodes"], .directory), (["edges"], .directory)] }

def twoDirectoriesSink : BulkLoaderConfig := { nodeDirectory := "/nodes", relationDirectory := "/edges" }

def twoDirectoriesScript : CypherConfig :=
  { nodeDirectory := "/nodes/", relationDirectory := "edges", outputPath := "/out/script.cypher" }

/-- The files of both statistics. -/
def twoStatsFiles (value : String) : BulkFiles :=
  (BulkFiles.writeAll (fun b m => (BulkLoader.load twoDirectoriesSink).load (.model m) b)
    ⟨twoDirectories, {}⟩ (twoStats value)).2

theorem sharedDirectories_twoDirectories :
    SharedDirectories twoDirectories twoDirectoriesSink twoDirectoriesScript ["nodes"] ["edges"] where
  loadNodes := except_eq_ok_of_toOption (by decide +kernel)
  loadRelations := except_eq_ok_of_toOption (by decide +kernel)
  publishNodes := except_eq_ok_of_toOption (by decide +kernel)
  publishRelations := except_eq_ok_of_toOption (by decide +kernel)
  distinct := by decide
  noNodes := by decide
  noRelations := by decide

/-- The script of both statistics. -/
def twoStatsScript : List Statement :=
  let node (name value : String) : Statement :=
    .node ⟨"Stat", "hive://gold.core/orders/id/" ++ name ++ "/"⟩
      [⟨"end_epoch", .quoted "2"⟩, ⟨"start_epoch", .quoted "1"⟩, ⟨"stat_name", .quoted name⟩,
        ⟨"stat_val", .bare value⟩, ⟨"published_tag", .quoted "run"⟩]
  let relation (name : String) : Statement :=
    .relation ⟨"Stat", "hive://gold.core/orders/id/" ++ name ++ "/"⟩
      ⟨"Column", "hive://gold.core/orders/id"⟩ "STAT_OF" "STAT" [⟨"published_tag", .quoted "run"⟩]
  [.unique "Stat", node "max" "7", node "avg" "3.5", relation "max", relation "avg"]

/-- Both statistics are published if their values are numbers, and none if one is not. -/
theorem publish_twoStats :
    (∃ s', CypherPublisher.publish twoDirectoriesScript "run" (twoStatsFiles "3.5").files =
        (.ok ⟨2, 2, 2, some "/out/script.cypher"⟩, s') ∧
      s'.read "/out/script.cypher" = .ok (Utf8.encode (scriptText twoStatsScript))) ∧
      ∃ path, CypherPublisher.publish twoDirectoriesScript "run" (twoStatsFiles "n/a").files =
        (.error (.invalidUnquotedValue "stat_val:UNQUOTED" "n/a" path), (twoStatsFiles "n/a").files) := by
  have loaded : ∀ value ∈ ["3.5", "n/a"],
      BulkFiles.writeAll (fun b m => (BulkLoader.load twoDirectoriesSink).load (.model m) b)
        ⟨twoDirectories, {}⟩ (twoStats value) = (.ok (), twoStatsFiles value) := by
    intro value hv
    refine Prod.ext (except_eq_ok_of_toOption ?_) rfl
    revert value
    decide +kernel
  have fit : ∀ a ∈ emittedAttributes (twoStats "3.5"), Fit a := by decide +kernel
  have unfit : ∃ a ∈ emittedAttributes (twoStats "n/a"), ¬ Fit a := by decide +kernel
  have only : ∀ a ∈ emittedAttributes (twoStats "n/a"),
      ¬ Fit a → a.1 = "stat_val:UNQUOTED" ∧ a.2.cellText = "n/a" := by
    decide +kernel
  constructor
  · have possible : CanWrite (twoStatsFiles "3.5").files "/out/script.cypher" :=
      ⟨"", _, Prod.ext (except_eq_ok_of_toOption (by decide +kernel)) rfl⟩
    obtain ⟨files, labels, ns, rs, -, -, -, -, -, written⟩ :=
      (publish_loaded rfl sharedDirectories_twoDirectories (loaded "3.5" (by decide)) "run").1 fit
    obtain ⟨s', published, -⟩ := written possible
    have compiled : CypherPublisher.compile twoDirectoriesScript "run" (twoStatsFiles "3.5").files =
        .ok (twoStatsScript, ⟨2, 2, 2, some "/out/script.cypher"⟩) :=
      except_eq_ok_of_toOption (by decide +kernel)
    obtain ⟨script, made, writes⟩ := publish_ok published
    obtain ⟨rfl, told⟩ := Prod.mk.inj (Except.ok.inj (made.symm.trans compiled))
    rw [told] at published
    exact ⟨s', published, read_writeOutput writes⟩
  · obtain ⟨a, ha, bad, path, published⟩ :=
      (publish_loaded rfl sharedDirectories_twoDirectories (loaded "n/a" (by decide)) "run").2 unfit
    obtain ⟨column, cell⟩ := only a ha bad
    rw [column, cell] at published
    exact ⟨path, published⟩

end Script

end MetaGraph.Cypher

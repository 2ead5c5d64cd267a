/-
Scripts can be run again and again. A script that is published from the
bulk-load files of models sets no property `key`, and all of its node
statements stand before its relation statements. So a node, once made, keeps
its key, and a second run in a row finds the nodes and edges of the first and
sets on them what they have. This holds whatever scripts were run before,
from the empty graph on.
-/
import Mathlib.Data.List.Infix
import Mathlib.Data.List.Permutation
import MetaGraph.Proofs.Cypher.Confined
import MetaGraph.Proofs.Cypher.PropertyGraph
import MetaGraph.Proofs.Cypher.Published
import MetaGraph.Proofs.Run.Attributes

namespace MetaGraph.Cypher

/-! ## Published scripts -/

/-- A row of what a model emits. -/
def IsModelRow (row : Row) : Prop :=
  ∃ (kind : ModelKind) (record : Record) (c c' : Claims) (m : Model), kind.build record c = .ok (m, c') ∧
    ((∃ n ∈ m.elements.nodes, row = Neo4j.nodeRow n) ∨ ∃ r ∈ m.elements.relations, row = Neo4j.relationRow r)

/-- The content of a bulk-load file of models: rows of what they emit, under the columns that
these have in common. -/
def IsModelFile (content : Bytes) : Prop :=
  ∃ (columns : List String) (rows : List Row), rows ≠ [] ∧
    (∀ row ∈ rows, IsModelRow row ∧ row.columns = columns) ∧
    content = Csv.rowBytes columns ++ rows.flatMap fun row => Csv.rowBytes row.cells

/-- The files that a publisher finds in a directory are bulk-load files of models. -/
def ModelFilesIn (s : FileStore) (directory : String) : Prop :=
  ∀ paths, CypherPublisher.csvFiles s directory = .ok paths → ∀ path ∈ paths,
    ∃ place content, s.find path = .ok (place, .file content) ∧ IsModelFile content

/-- A script that is published from the bulk-load files of models. -/
def IsPublished (script : List Statement) : Prop :=
  ∃ (s : FileStore) (c : CypherConfig) (tag : String) (report : PublishReport),
    ModelFilesIn s c.nodeDirectory ∧ ModelFilesIn s c.relationDirectory ∧
      CypherPublisher.compile c tag s = .ok (script, report)

/-- A graph that scripts of bulk-load files of models make of the empty one. -/
inductive Reached : PropertyGraph → Prop
  | empty : Reached {}
  | run {g : PropertyGraph} {script : List Statement} :
    Reached g → IsPublished script → Reached (g.run script)

/-! ## The files of a run -/

section Loaded

open BulkFiles

variable {home : List String → Place} {s : FileStore} {lines : List Line} {b : BulkFiles}

/-- A file has no rows but those that were written to it, and it has some. -/
theorem isModelFile_contentOf (h : Holds home s lines b) (rows_ok : ∀ l ∈ lines, IsModelRow l.row)
    {f : FileKey × Place} (hf : f ∈ b.output.openFiles) : IsModelFile (contentOf f.1 lines) := by
  refine ⟨f.1.2, (lines.filter (·.key = f.1)).map Line.row, ?_, ?_, ?_⟩
  · obtain ⟨l, hl, hk⟩ := (h.opened f.1).1 (List.mem_map_of_mem hf)
    exact List.ne_nil_of_mem (List.mem_map_of_mem (List.mem_filter.2 ⟨hl, decide_eq_true hk⟩))
  · intro row hr
    obtain ⟨l, hl, rfl⟩ := List.mem_map.1 hr
    obtain ⟨hl, hk⟩ := List.mem_filter.1 hl
    exact ⟨rows_ok l hl, congrArg Prod.snd (of_decide_eq_true hk)⟩
  · simp only [contentOf, rowsOf, List.flatMap_map]

theorem modelFilesIn_of_holds (h : Holds home s lines b) (rows_ok : ∀ l ∈ lines, IsModelRow l.row)
    {directory : String} (columns : List String) (hd : s.LeadsTo directory (home columns)) :
    ModelFilesIn b.files directory := by
  intro paths hp path hm
  obtain ⟨files, perm, found⟩ := csvFiles_perm h hd
  rw [found] at hp
  cases hp
  obtain ⟨f, hf, rfl⟩ := List.mem_map.1 hm
  obtain ⟨hf, hh⟩ := List.mem_filter.1 (perm.mem_iff.1 hf)
  obtain ⟨place, name, -⟩ := h.place_eq hf
  have entry := h.content f hf
  rw [place, of_decide_eq_true hh] at entry
  exact ⟨_, _, FileStore.find_join (hd.mono h.keeps) name entry, isModelFile_contentOf h rows_ok hf⟩

/-- What is compiled after a run that wrote models into two empty directories is published. -/
theorem isPublished_of_loaded {c : BulkLoaderConfig} {p : CypherConfig} {nodes relations : Place}
    {ms : List Model} (neo4j : c.format = .neo4j) (dirs : SharedDirectories s c p nodes relations)
    (loaded : BulkFiles.writeAll (writeModel c) ⟨s, {}⟩ ms = (.ok (), b))
    (built : ∀ m ∈ ms, ∃ (kind : ModelKind) (record : Record) (c c' : Claims),
      kind.build record c = .ok (m, c'))
    {tag : String} {script : List Statement} {report : PublishReport}
    (compiled : CypherPublisher.compile p tag b.files = .ok (script, report)) : IsPublished script := by
  have h := holds_writeAll neo4j (FileStore.leadsTo_of_find dirs.loadNodes)
    (FileStore.leadsTo_of_find dirs.loadRelations) dirs.noNodes dirs.noRelations loaded
  have rows_ok : ∀ l ∈ ms.flatMap modelLines, IsModelRow l.row := by
    intro l hl
    obtain ⟨m, hm, hl⟩ := List.mem_flatMap.1 hl
    obtain ⟨kind, record, c, c', built⟩ := built m hm
    refine ⟨kind, record, c, c', m, built, ?_⟩
    rcases List.mem_append.1 hl with hl | hl
    · obtain ⟨n, hn, rfl⟩ := List.mem_map.1 hl
      exact .inl ⟨n, hn, rfl⟩
    · obtain ⟨r, hr, rfl⟩ := List.mem_map.1 hl
      exact .inr ⟨r, hr, rfl⟩
  exact ⟨b.files, p, tag, report,
    modelFilesIn_of_holds h rows_ok [Neo4j.labelColumn] (FileStore.leadsTo_of_find dirs.publishNodes),
    modelFilesIn_of_holds h rows_ok [] (FileStore.leadsTo_of_find dirs.publishRelations), compiled⟩

end Loaded

/-! ## What a published script sets -/

/-- The property that a column sets. -/
def propertyOf (column : String) : String := (Text.dropTail? unquotedMark column).getD column

theorem key_notMem_columns {row : Row} (h : IsModelRow row) : keyProperty ∉ row.columns.map propertyOf := by
  have fixed : ∀ name ∈ "LABEL" :: "KEY" :: Neo4j.relationColumns ++ attributeNames,
      propertyOf name ≠ keyProperty := by decide +kernel
  obtain ⟨kind, record, c, c', m, built, h⟩ := h
  obtain ⟨named, bare⟩ := ModelKind.attributes_of_build built
  intro hk
  obtain ⟨name, hn, hk⟩ := List.mem_map.1 hk
  refine fixed name ?_ hk
  rcases h with ⟨n, hm, rfl⟩ | ⟨r, hm, rfl⟩
  · obtain ⟨a, ha, rfl⟩ := List.mem_map.1 hn
    rcases List.mem_append.1 ha with ha | ha
    · simp only [List.mem_cons, List.not_mem_nil, or_false] at ha
      rcases ha with rfl | rfl <;> simp [Neo4j.labelColumn, Neo4j.keyColumn]
    · exact List.mem_append_right _ (named n hm a ha)
  · have columns : (Neo4j.relationRow r).columns = Neo4j.relationColumns := by
      rw [Neo4j.relationRow, bare r hm, List.append_nil]
      rfl
    rw [columns] at hn
    exact List.mem_append_left _ (List.mem_cons_of_mem _ (List.mem_cons_of_mem _ hn))

theorem property_setting? {x : String × String} {a : Assignment} (h : setting? x = some a.setting) :
    a.property = propertyOf x.1 := by
  unfold setting? at h
  unfold propertyOf
  split at h
  · rename_i hm
    rw [hm]
    exact (congrArg Prod.fst (Option.some.inj h)).symm
  · rename_i plain hm
    rw [hm]
    split at h
    · cases h
    · exact (congrArg Prod.fst (Option.some.inj h)).symm

/-- A script whose statements keep the keys of nodes, and in which the statements of nodes come
first. -/
structure Replayable (script : List Statement) : Prop where
  keeps : ∀ st ∈ script, ∀ m ∈ st.nodeMerges, ∀ a ∈ m.sets, a.property ≠ keyProperty
  phases : ∃ first second, script = first ++ second ∧ (∀ st ∈ first, ∀ nodes, st.edgeMerges nodes = []) ∧
    ∀ st ∈ second, st.nodeMerges = []

namespace Sheet

variable {sheet : Sheet} {tag : String} {ss : List Statement} {st : Statement}

theorem mem_mapRows {f : List String → Except PublishError Statement} (h : sheet.mapRows f = .ok ss)
    (hs : st ∈ ss) : ∃ row ∈ sheet.rows, f row = .ok st := by
  obtain ⟨all, hall, h⟩ := except_bind_ok.1 h
  split at h
  · cases h
  · cases h
    exact mem_mapM_ok hall st hs

theorem property_of_mem_sets {reserved : List Nat} {row : List String} {as : List Assignment}
    (h : sheet.sets reserved tag row = .ok as) {a : Assignment} (ha : a ∈ as) :
    a.property = "published_tag" ∨ a.property ∈ sheet.header.map propertyOf := by
  obtain ⟨cells, hc, h⟩ := except_bind_ok.1 h
  cases h
  rcases List.mem_append.1 ha with ha | ha
  · have set := List.mem_map_of_mem (f := Assignment.setting) ha
    rw [(assignments_ok hc).1, cellSettings, List.mem_filterMap] at set
    obtain ⟨⟨x, i⟩, hx, set⟩ := set
    have cell : x ∈ sheet.header.zip row := List.fst_mem_of_mem_zipIdx (List.mem_filter.1 hx).1
    rw [property_setting? set]
    exact .inr (List.mem_map_of_mem (List.of_mem_zip cell).1)
  · rw [List.mem_singleton.1 ha]
    exact .inl rfl

theorem mem_nodes (h : sheet.nodes tag = .ok ss) (hs : st ∈ ss) :
    ∃ n sets, st = .node n sets ∧
      ∀ a ∈ sets, a.property = "published_tag" ∨ a.property ∈ sheet.header.map propertyOf := by
  obtain ⟨label, -, h⟩ := except_bind_ok.1 h
  obtain ⟨key, -, h⟩ := except_bind_ok.1 h
  obtain ⟨row, -, h⟩ := mem_mapRows h hs
  obtain ⟨sets, hset, h⟩ := except_bind_ok.1 h
  cases h
  exact ⟨_, sets, rfl, fun a ha => property_of_mem_sets hset ha⟩

theorem mem_relations (h : sheet.relations tag = .ok ss) (hs : st ∈ ss) :
    ∃ start target kind reverseKind sets, st = .relation start target kind reverseKind sets := by
  obtain ⟨reserved, -, h⟩ := except_bind_ok.1 h
  obtain ⟨row, -, h⟩ := mem_mapRows h hs
  obtain ⟨sets, -, h⟩ := except_bind_ok.1 h
  cases h
  exact ⟨_, _, _, _, _, rfl⟩

end Sheet

theorem mem_statements {s : FileStore} {f : Sheet → Except PublishError (List Statement)}
    {paths : List String} {ss : List Statement} (h : CypherPublisher.statements s f paths = .ok ss)
    {st : Statement} (hs : st ∈ ss) :
    ∃ path ∈ paths, ∃ sheet part, Sheet.read s path = .ok sheet ∧ f sheet = .ok part ∧ st ∈ part := by
  obtain ⟨parts, hp, h⟩ := except_bind_ok.1 h
  cases h
  obtain ⟨part, hpart, hs⟩ := List.mem_flatten.1 hs
  obtain ⟨path, hpath, hr⟩ := mem_mapM_ok hp part hpart
  obtain ⟨sheet, hread, hf⟩ := except_bind_ok.1 hr
  exact ⟨path, hpath, sheet, part, hread, hf, hs⟩

/-- The header of a bulk-load file of models are the columns of their rows. -/
theorem header_of_read {s : FileStore} {path : String} {place : Place} {content : Bytes} {sheet : Sheet}
    (found : s.find path = .ok (place, .file content)) (file : IsModelFile content)
    (h : Sheet.read s path = .ok sheet) : ∃ row, IsModelRow row ∧ sheet.header = row.columns := by
  obtain ⟨columns, rows, given, rows_ok, rfl⟩ := file
  obtain ⟨first, hf⟩ := List.exists_mem_of_ne_nil rows given
  obtain ⟨model, same⟩ := rows_ok first hf
  have nonempty : columns ≠ [] := by
    obtain ⟨kind, record, c, c', m, -, ⟨n, -, rfl⟩ | ⟨r, -, rfl⟩⟩ := model <;>
      exact same ▸ List.cons_ne_nil _ _
  have width : ∀ row ∈ rows.map Row.cells, row.length = columns.length := by
    intro cells hc
    obtain ⟨row, hr, rfl⟩ := List.mem_map.1 hc
    rw [← (rows_ok row hr).2]
    simp [Row.cells, Row.columns]
  obtain ⟨r, header, -⟩ := Csv.Reader.read_written nonempty width
  rw [List.flatMap_map] at header
  rw [Sheet.read, found] at h
  simp only [header] at h
  cases h
  exact ⟨first, model, same.symm⟩

/-- **What a published script consists of.** -/
theorem IsPublished.replayable {script : List Statement} (h : IsPublished script) : Replayable script := by
  obtain ⟨s, c, tag, report, nodeFiles, -, h⟩ := h
  obtain ⟨nodePaths, hnp, h⟩ := except_bind_ok.1 h
  obtain ⟨relationPaths, -, h⟩ := except_bind_ok.1 h
  obtain ⟨ns, hn, h⟩ := except_bind_ok.1 h
  obtain ⟨rs, hr, h⟩ := except_bind_ok.1 h
  cases h
  have ofNodes : ∀ st ∈ ns, ∃ n sets, st = .node n sets ∧ ∀ a ∈ sets, a.property ≠ keyProperty := by
    intro st hs
    obtain ⟨path, hp, sheet, part, hread, hpart, hs⟩ := mem_statements hn hs
    obtain ⟨place, content, found, file⟩ := nodeFiles nodePaths hnp path hp
    obtain ⟨row, model, header⟩ := header_of_read found file hread
    obtain ⟨n, sets, rfl, property⟩ := Sheet.mem_nodes hpart hs
    refine ⟨n, sets, rfl, fun a ha => ?_⟩
    rcases property a ha with hp | hp
    · rw [hp]
      decide
    · rw [header] at hp
      exact fun he => key_notMem_columns model (he ▸ hp)
  have ofRelations : ∀ st ∈ rs, st.nodeMerges = [] := by
    intro st hs
    obtain ⟨path, -, sheet, part, -, hpart, hs⟩ := mem_statements hr hs
    obtain ⟨_, _, _, _, _, rfl⟩ := Sheet.mem_relations hpart hs
    rfl
  constructor
  · intro st hs m hm
    rcases List.mem_append.1 hs with hs | hs
    · rcases List.mem_append.1 hs with hs | hs
      · obtain ⟨label, -, rfl⟩ := List.mem_map.1 hs
        cases hm
      · obtain ⟨n, sets, rfl, keeps⟩ := ofNodes st hs
        rw [List.mem_singleton.1 hm]
        exact keeps
    · rw [ofRelations st hs] at hm
      cases hm
  · refine ⟨(labels ns).map .unique ++ ns, rs, rfl, ?_, ofRelations⟩
    intro st hs nodes
    rcases List.mem_append.1 hs with hs | hs
    · obtain ⟨label, -, rfl⟩ := List.mem_map.1 hs
      rfl
    · obtain ⟨n, sets, rfl, -⟩ := ofNodes st hs
      rfl

/-! ## Runs -/

theorem nodeMerges_fits {st : Statement} {m : Merge String (String × Option Value)} (hm : m ∈ st.nodeMerges)
    (keeps : ∀ a ∈ m.sets, a.property ≠ keyProperty) : m.Fits identOf := by
  cases st with
  | node n sets =>
    obtain rfl := List.mem_singleton.1 hm
    exact ⟨by simp [identOf, NodeRef.ident, KeyMap.get?], List.pairwise_singleton _ _, identOf_set keeps⟩
  | unique | relation => cases hm

theorem edgeMerges_fits {st : Statement} {nodes : List StoredNode}
    {m : Merge (Nat × String × Nat) (Nat × String × Nat)} (hm : m ∈ st.edgeMerges nodes) :
    m.Fits Stored.place := by
  cases st with
  | relation start target kind reverseKind sets =>
    simp only [Statement.edgeMerges, List.mem_flatMap, List.mem_cons, List.not_mem_nil, or_false] at hm
    obtain ⟨i, -, j, -, rfl | rfl⟩ := hm <;> exact ⟨rfl, List.Pairwise.nil, fun _ => rfl⟩
  | unique | node => cases hm

namespace PropertyGraph

theorem run_append (first second : List Statement) (g : PropertyGraph) :
    g.run (first ++ second) = (g.run first).run second :=
  List.foldl_append ..

/-- The nodes of a script are merged one after the other, whatever stands between them. -/
theorem nodes_run (script : List Statement) (g : PropertyGraph) :
    (g.run script).nodes = applyAll identOf (script.flatMap Statement.nodeMerges) g.nodes := by
  induction script generalizing g with
  | nil => rfl
  | cons st rest ih =>
    rw [List.flatMap_cons, applyAll, List.foldl_append]
    exact ih (g.step st)

/-- Statements of nodes change no edge. -/
theorem edges_run_of_nodes {script : List Statement} (h : ∀ st ∈ script, ∀ nodes, st.edgeMerges nodes = [])
    (g : PropertyGraph) : (g.run script).edges = g.edges := by
  induction script generalizing g with
  | nil => rfl
  | cons st rest ih =>
    obtain ⟨first, later⟩ := List.forall_mem_cons.1 h
    refine (ih later (g.step st)).trans ?_
    simp only [step, first]
    rfl

/-- Statements of relations change no node, so they all match in the same nodes. -/
theorem run_of_relations {script : List Statement} (h : ∀ st ∈ script, st.nodeMerges = [])
    (g : PropertyGraph) :
    g.run script = ⟨g.nodes, applyAll Stored.place (script.flatMap (·.edgeMerges g.nodes)) g.edges⟩ := by
  induction script generalizing g with
  | nil => rfl
  | cons st rest ih =>
    obtain ⟨first, later⟩ := List.forall_mem_cons.1 h
    have nodes : (g.step st).nodes = g.nodes := by
      simp only [step, first]
      rfl
    refine (ih later (g.step st)).trans ?_
    rw [nodes, List.flatMap_cons]
    simp only [step, applyAll, List.foldl_append]

/-- Nodes are told apart by label and key, and properties are in order. -/
structure Sound (g : PropertyGraph) : Prop where
  distinct : (g.nodes.map identOf).Nodup
  nodes : ∀ x ∈ g.nodes, x.properties.Sorted
  edges : ∀ x ∈ g.edges, x.properties.Sorted

end PropertyGraph

open PropertyGraph

variable {script : List Statement} {g : PropertyGraph}

theorem Replayable.fits (h : Replayable script) :
    ∀ m ∈ script.flatMap Statement.nodeMerges, m.Fits identOf := by
  intro m hm
  obtain ⟨st, hs, hm⟩ := List.mem_flatMap.1 hm
  exact nodeMerges_fits hm (h.keeps st hs m hm)

theorem Replayable.sound_run (h : Replayable script) (hg : g.Sound) : (g.run script).Sound := by
  obtain ⟨first, second, rfl, nodesFirst, relationsThen⟩ := h.phases
  refine ⟨?_, ?_, ?_⟩
  · rw [nodes_run]
    exact nodup_applyAll h.fits hg.distinct
  · rw [nodes_run]
    exact sorted_applyAll h.fits hg.nodes
  · rw [run_append, run_of_relations relationsThen, edges_run_of_nodes nodesFirst]
    refine sorted_applyAll (fun m hm => ?_) hg.edges
    obtain ⟨st, -, hm⟩ := List.mem_flatMap.1 hm
    exact edgeMerges_fits hm

/-- The second run in a row changes neither nodes nor, as these are the same, edges. -/
theorem Replayable.run_run (h : Replayable script) (hg : g.Sound) :
    (g.run script).run script = g.run script := by
  have nodes : ((g.run script).run script).nodes = (g.run script).nodes := by
    rw [nodes_run, nodes_run]
    exact applyAll_applyAll h.fits hg.nodes
  obtain ⟨first, second, rfl, nodesFirst, relationsThen⟩ := h.phases
  -- A run is the run of the node statements, then that of the relation statements in its nodes.
  have parts (g : PropertyGraph) : g.run (first ++ second) =
      ⟨(g.run (first ++ second)).nodes,
        applyAll Stored.place (second.flatMap (·.edgeMerges (g.run (first ++ second)).nodes)) g.edges⟩ := by
    have after := run_of_relations relationsThen (g.run first)
    rw [edges_run_of_nodes nodesFirst, ← run_append] at after
    have same : (g.run (first ++ second)).nodes = (g.run first).nodes := by rw [after]
    rw [same]
    exact after
  rw [parts (g.run (first ++ second)), nodes, parts g]
  refine congrArg _ (applyAll_applyAll (fun m hm => ?_) hg.edges)
  obtain ⟨st, -, hm⟩ := List.mem_flatMap.1 hm
  exact edgeMerges_fits hm

theorem Reached.sound (h : Reached g) : g.Sound := by
  induction h with
  | empty => exact ⟨List.nodup_nil, nofun, nofun⟩
  | run _ published ih => exact published.replayable.sound_run ih

/-! ## Replaying -/

/-- **Scripts can be replayed.** A second run in a row of a published script changes nothing. And
however far a run gets, nodes that were there keep their labels and keys, and no two nodes have one
label and key. -/
theorem run_published_again (published : IsPublished script) (reached : Reached g) :
    (g.run script).run script = g.run script ∧
      ∀ done, done <+: script → ((g.run done).nodes.map identOf).Nodup ∧
        ∀ (i : Nat) (x : StoredNode), g.nodes[i]? = some x →
          ∃ y, (g.run done).nodes[i]? = some y ∧ y.place = x.place ∧
            y.properties.get? keyProperty = x.properties.get? keyProperty := by
  have replayable := published.replayable
  have sound := reached.sound
  refine ⟨replayable.run_run sound, fun done part => ?_⟩
  have fits : ∀ m ∈ done.flatMap Statement.nodeMerges, m.Fits identOf := fun m hm =>
    replayable.fits m ((List.IsPrefix.flatMap part Statement.nodeMerges).subset hm)
  rw [nodes_run]
  refine ⟨nodup_applyAll fits sound.distinct, fun i x hx => ?_⟩
  have old : (g.nodes.map identOf)[i]? = some (identOf x) := by rw [List.getElem?_map, hx]; rfl
  obtain ⟨new, whole⟩ := idents_prefix_applyAll fits g.nodes
  obtain ⟨inside, -⟩ := List.getElem?_eq_some_iff.1 old
  have kept : (g.nodes.map identOf ++ new)[i]? = (g.nodes.map identOf)[i]? := List.getElem?_append_left inside
  rw [whole, old, List.getElem?_map] at kept
  obtain ⟨y, hy, same⟩ := Option.map_eq_some_iff.1 kept
  exact ⟨y, hy, congrArg Prod.fst same, congrArg Prod.snd same⟩

/-- A dashboard with its group and cluster. -/
def oneDashboard : List Model :=
  (ModelKind.buildAll
    [(.dashboard, [("dashboard_group", .text "sales"), ("dashboard_name", .text "daily")])] {}).1

def oneDashboardFiles : BulkFiles :=
  (BulkFiles.writeAll (BulkFiles.writeModel twoDirectoriesSink) ⟨twoDirectories, {}⟩ oneDashboard).2

/-- The script of a dashboard makes three nodes and, there and back, two edges between them; when
it is run again it finds them. -/
theorem run_published_again_dashboard : ∃ script, IsPublished script ∧
    (PropertyGraph.run script {}).nodes.length = 3 ∧ (PropertyGraph.run script {}).edges.length = 4 ∧
      (PropertyGraph.run script {}).run script = PropertyGraph.run script {} ∧
      ((PropertyGraph.run script {}).nodes.map identOf).Nodup := by
  have loaded : BulkFiles.writeAll (BulkFiles.writeModel twoDirectoriesSink) ⟨twoDirectories, {}⟩
      oneDashboard = (.ok (), oneDashboardFiles) :=
    Prod.ext (except_eq_ok_of_toOption (by decide +kernel)) rfl
  obtain ⟨ns, rs, files, hn, hr, compiled⟩ :=
    settles_compile rfl sharedDirectories_twoDirectories loaded "run"
  have fit : ∀ a ∈ emittedAttributes oneDashboard, Fit a := by decide +kernel
  -- The files do not tell in which order nodes and relations stand.
  have made : ∀ ns ∈ ((emittedNodes oneDashboard).map (nodeStatement "run")).permutations',
      ∀ rs ∈ ((emittedRelations oneDashboard).map (relationStatement "run")).permutations',
        (PropertyGraph.run (script ns rs) {}).nodes.length = 3 ∧
          (PropertyGraph.run (script ns rs) {}).edges.length = 4 := by
    decide +kernel
  have counts := made ns (List.mem_permutations'.2 hn) rs (List.mem_permutations'.2 hr)
  have built : ∀ m ∈ oneDashboard, ∃ (kind : ModelKind) (record : Record) (c c' : Claims),
      kind.build record c = .ok (m, c') := by
    intro m hm
    obtain ⟨kind, record, before, after, -, built⟩ := ModelKind.mem_buildAll hm
    exact ⟨kind, record, before, after, built⟩
  have published : IsPublished (script ns rs) :=
    isPublished_of_loaded rfl sharedDirectories_twoDirectories loaded built (compiled.ok fit)
  obtain ⟨again, keys⟩ := run_published_again published .empty
  exact ⟨_, published, counts.1, counts.2, again, (keys _ (List.prefix_refl _)).1⟩

end MetaGraph.Cypher

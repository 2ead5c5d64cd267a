/-
All or nothing. The script is made as a whole before anything is written, so
one fault in any row of any file leaves all files as they were. What is
reported of a script that was written are the files it was made from and the
statements that are read from it.
-/
import MetaGraph.Proofs.Cypher.Confined

namespace MetaGraph.Cypher

/-! ## What keeps a file from being published -/

/-- The columns of nodes that are not properties. -/
def nodeColumns : List String := [Neo4j.labelColumn, Neo4j.keyColumn]

/-- A fault of a sheet: a column is missing that has to be there, a cell of another column that is marked
holds something else than a number or a boolean, or not all rows can be read. -/
inductive Sheet.Faulty (sheet : Sheet) (required : List String) : Prop
  | column {name : String} : name ∈ required → name ∉ sheet.header → Faulty sheet required
  | cell {row : List String} {i : Nat} {name cell : String} : row ∈ sheet.rows →
    (sheet.header.zip row)[i]? = some (name, cell) → i ∉ required.map sheet.header.idxOf →
    (Text.dropTail? unquotedMark name).isSome → cell ≠ "" → isLiteral cell = false → Faulty sheet required
  | rows {e : Csv.CsvError} : sheet.fault = some e → Faulty sheet required

/-- A file that has no sheet, or a sheet with a fault. -/
def FaultyFile (s : FileStore) (required : List String) (path : String) : Prop :=
  (∃ e, Sheet.read s path = .error e) ∨ ∃ sheet, Sheet.read s path = .ok sheet ∧ sheet.Faulty required

namespace Sheet

variable {sheet : Sheet}

theorem mem_header_of_column {name : String} {i : Nat} (h : sheet.column name = .ok i) : name ∈ sheet.header := by
  unfold column at h
  split at h
  · rename_i found
    have any := congrArg Option.isSome found
    simpa [List.findIdx?_isSome] using any
  · cases h

/-- Cells that are accepted are blank or literals where their column is marked. -/
theorem literal_of_assignments {reserved : List Nat} {cells : List (String × String)} {k : Nat}
    {as : List Assignment} (h : sheet.assignments reserved k cells = .ok as) {i : Nat} {name cell : String}
    (here : cells[i]? = some (name, cell)) (free : k + i ∉ reserved)
    (marked : (Text.dropTail? unquotedMark name).isSome) (given : cell ≠ "") : isLiteral cell = true := by
  induction cells generalizing k i as with
  | nil => cases here
  | cons x cells ih =>
    obtain ⟨name', cell'⟩ := x
    rw [assignments] at h
    cases i with
    | zero =>
      cases here
      rw [if_neg (by simpa using free)] at h
      obtain ⟨a, set, -⟩ := except_bind_ok.1 h
      unfold assignment? at set
      split at set
      · rename_i unmarked
        rw [unmarked] at marked
        cases marked
      rw [if_neg given] at set
      split at set
      · assumption
      · cases set
    | succ i =>
      have later : (k + 1) + i ∉ reserved := by rwa [Nat.add_assoc, Nat.add_comm 1]
      split at h
      · exact ih h here later
      · obtain ⟨a, -, h⟩ := except_bind_ok.1 h
        obtain ⟨rest, set, -⟩ := except_bind_ok.1 h
        exact ih set here later

/-- A sheet all of whose rows are accepted has no fault. -/
theorem not_faulty_of_mapRows {required : List String} {f : List String → Except PublishError Statement}
    {ss : List Statement} (columns : ∀ name ∈ required, name ∈ sheet.header)
    (hf : ∀ row st, f row = .ok st →
      ∃ as, sheet.assignments (required.map sheet.header.idxOf) 0 (sheet.header.zip row) = .ok as)
    (h : sheet.mapRows f = .ok ss) : ¬ sheet.Faulty required := by
  obtain ⟨_, read, h⟩ := except_bind_ok.1 h
  rintro (⟨needed, missing⟩ | ⟨hr, here, free, marked, given, other⟩ | faulty)
  · exact missing (columns _ needed)
  · obtain ⟨st, -, hst⟩ := exists_of_mapM_ok read hr
    obtain ⟨as, set⟩ := hf _ st hst
    rw [literal_of_assignments set here (by rwa [Nat.zero_add]) marked given] at other
    cases other
  · rw [faulty] at h
    cases h

theorem not_faulty_of_nodes {tag : String} {ss : List Statement} (h : sheet.nodes tag = .ok ss) :
    ¬ sheet.Faulty nodeColumns := by
  obtain ⟨label, hl, h⟩ := except_bind_ok.1 h
  obtain ⟨key, hk, h⟩ := except_bind_ok.1 h
  have columns : ∀ name ∈ nodeColumns, name ∈ sheet.header := by
    simpa [nodeColumns] using And.intro (mem_header_of_column hl) (mem_header_of_column hk)
  obtain rfl := column_ok hl
  obtain rfl := column_ok hk
  refine not_faulty_of_mapRows columns (fun row st hr => ?_) h
  obtain ⟨sets, set, -⟩ := except_bind_ok.1 hr
  obtain ⟨as, set, -⟩ := except_bind_ok.1 set
  exact ⟨as, set⟩

theorem not_faulty_of_relations {tag : String} {ss : List Statement} (h : sheet.relations tag = .ok ss) :
    ¬ sheet.Faulty Neo4j.relationColumns := by
  obtain ⟨reserved, hres, h⟩ := except_bind_ok.1 h
  have columns : ∀ name ∈ Neo4j.relationColumns, name ∈ sheet.header := fun name needed =>
    have ⟨_, _, found⟩ := exists_of_mapM_ok hres needed
    mem_header_of_column found
  obtain rfl := columns_ok hres
  refine not_faulty_of_mapRows columns (fun row st hr => ?_) h
  obtain ⟨sets, set, -⟩ := except_bind_ok.1 hr
  obtain ⟨as, set, -⟩ := except_bind_ok.1 set
  exact ⟨as, set⟩

end Sheet

theorem not_faulty_of_statements {s : FileStore} {f : Sheet → Except PublishError (List Statement)}
    {required : List String} (hf : ∀ sheet ss, f sheet = .ok ss → ¬ sheet.Faulty required) {paths : List String}
    {ss : List Statement} (h : CypherPublisher.statements s f paths = .ok ss) :
    ∀ path ∈ paths, ¬ FaultyFile s required path := by
  obtain ⟨parts, hparts, -⟩ := except_bind_ok.1 h
  intro path hp
  obtain ⟨part, -, hpart⟩ := exists_of_mapM_ok hparts hp
  obtain ⟨sheet, read, hsheet⟩ := except_bind_ok.1 hpart
  rintro (⟨e, failed⟩ | ⟨sheet', read', faulty⟩)
  · rw [read] at failed
    cases failed
  · obtain rfl := Except.ok.inj (read.symm.trans read')
    exact hf sheet part hsheet faulty

/-! ## The files of a directory -/

/-- The names of the CSV files in a directory; there are none if it cannot be listed. -/
def csvNames (s : FileStore) (directory : String) : List String :=
  ((s.list directory).toOption.getD []).filter fun name => Path.extension? name == some "csv"

/-- The publisher reads all CSV files of a directory, each once for each name. -/
theorem perm_csvNames {s : FileStore} {directory : String} {paths : List String}
    (h : CypherPublisher.csvFiles s directory = .ok paths) :
    paths.Perm ((csvNames s directory).map (Path.join directory)) := by
  unfold CypherPublisher.csvFiles at h
  split at h
  · split at h
    · cases h
    · rename_i names listed
      cases h
      rw [csvNames, listed]
      exact (List.mergeSort_perm _ _).map _
  · rename_i absent
    cases h
    have unlisted : (s.list directory).toOption = none := by
      rw [FileStore.list]
      cases found : s.find directory with
      | error e => rfl
      | ok x => simp [FileStore.pathExists, found, Except.isOk, Except.toBool] at absent
    rw [csvNames, unlisted]
    exact .refl _

/-! ## What is reported -/

/-- Whether a statement puts in a node. -/
def mergesNode (ts : List Token) : Bool := ts.head? == some (.name "MERGE")

/-- Whether a statement puts in relations, between two nodes that are found first. -/
def mergesRelation (ts : List Token) : Bool := ts.head? == some (.name "MATCH")

/-- What a report says of the files that were read, of their rows, and of the script that was written. -/
structure Accounts (c : CypherConfig) (s s' : FileStore) (report : PublishReport) : Prop where
  files : report.files = (csvNames s c.nodeDirectory).length + (csvNames s c.relationDirectory).length
  rows : ∃ nodeSheets relationSheets, sheetsIn s c.nodeDirectory = .ok nodeSheets ∧
    sheetsIn s c.relationDirectory = .ok relationSheets ∧
    report.files = nodeSheets.length + relationSheets.length ∧
    report.nodes = (nodeSheets.flatMap (·.rows)).length ∧
    report.relations = (relationSheets.flatMap (·.rows)).length
  script : ∃ text statements, s'.read c.outputPath = .ok (Utf8.encode text) ∧ readScript text = some statements ∧
    report.nodes = statements.countP mergesNode ∧ report.relations = statements.countP mergesRelation

section Counts

variable {rowTokens : List String → List String → List Token} {p : List Token → Bool} {sheets : List Sheet}

theorem length_sheetsTokens (rowTokens : List String → List String → List Token) (sheets : List Sheet) :
    (sheetsTokens rowTokens sheets).length = (sheets.flatMap (·.rows)).length := by
  induction sheets with
  | nil => rfl
  | cons sheet sheets ih =>
    rw [sheetsTokens, List.flatMap_cons, List.length_append, List.length_map, List.flatMap_cons,
      List.length_append, ← ih, sheetsTokens]

theorem mem_sheetsTokens {ts : List Token} (h : ts ∈ sheetsTokens rowTokens sheets) :
    ∃ header row, rowTokens header row = ts := by
  obtain ⟨sheet, -, hts⟩ := List.mem_flatMap.1 h
  obtain ⟨row, -, rfl⟩ := List.mem_map.1 hts
  exact ⟨sheet.header, row, rfl⟩

theorem countP_sheetsTokens (h : ∀ header row, p (rowTokens header row) = true) :
    (sheetsTokens rowTokens sheets).countP p = (sheets.flatMap (·.rows)).length := by
  rw [← length_sheetsTokens rowTokens]
  refine List.countP_eq_length.2 fun ts hts => ?_
  obtain ⟨header, row, rfl⟩ := mem_sheetsTokens hts
  exact h header row

theorem countP_sheetsTokens_eq_zero (h : ∀ header row, p (rowTokens header row) = false) :
    (sheetsTokens rowTokens sheets).countP p = 0 := by
  refine List.countP_eq_zero.2 fun ts hts => ?_
  obtain ⟨header, row, rfl⟩ := mem_sheetsTokens hts
  exact ne_true_of_eq_false (h header row)

end Counts

theorem countP_uniqueTokens {p : List Token → Bool} (h : ∀ label, p (uniqueTokens label) = false)
    (labels : List String) : (labels.map uniqueTokens).countP p = 0 := by
  refine List.countP_eq_zero.2 fun ts hts => ?_
  obtain ⟨label, -, rfl⟩ := List.mem_map.1 hts
  exact ne_true_of_eq_false (h label)

section Publish

variable {c : CypherConfig} {tag : String} {s s' : FileStore} {script : List Statement} {report : PublishReport}

/-- There is one path for each name, one sheet for each path, and one statement for each row. -/
theorem counts_of_statements {f : Sheet → Except PublishError (List Statement)}
    {rowTokens : List String → List String → List Token}
    (hf : ∀ sheet ss, f sheet = .ok ss →
      ss.map Statement.tokens = sheet.rows.map (rowTokens sheet.header) ∧ ∀ st ∈ ss, st.Sound)
    {directory : String} {paths : List String} {sheets : List Sheet} {ss : List Statement}
    (listed : CypherPublisher.csvFiles s directory = .ok paths) (read : sheetsIn s directory = .ok sheets)
    (h : CypherPublisher.statements s f paths = .ok ss) : paths.length = (csvNames s directory).length ∧
      paths.length = sheets.length ∧ ss.length = (sheets.flatMap (·.rows)).length := by
  obtain ⟨paths', listed', read⟩ := except_bind_ok.1 read
  obtain rfl := Except.ok.inj (listed.symm.trans listed')
  obtain ⟨sheets', read', tokens, -⟩ := statements_ok hf h
  obtain rfl := Except.ok.inj (read.symm.trans read')
  refine ⟨?_, (length_of_mapM_ok read).symm, ?_⟩
  · simpa using (perm_csvNames listed).length_eq
  · simpa using (congrArg List.length tokens).trans (length_sheetsTokens rowTokens sheets)

/-- The report accounts for what was read and written. -/
theorem accounts_of_publish (h : CypherPublisher.publish c tag s = (.ok report, s')) : Accounts c s s' report := by
  obtain ⟨script, compiled, written⟩ := publish_ok h
  obtain ⟨nodeSheets, relationSheets, labels, hns, hrs, -, -, tokens, sound⟩ := compile_ok compiled
  obtain ⟨nodeFiles, hnf, compiled⟩ := except_bind_ok.1 compiled
  obtain ⟨relationFiles, hrf, compiled⟩ := except_bind_ok.1 compiled
  obtain ⟨nodes, hn, compiled⟩ := except_bind_ok.1 compiled
  obtain ⟨relations, hr, compiled⟩ := except_bind_ok.1 compiled
  obtain ⟨rfl, rfl⟩ := Prod.mk.inj (Except.ok.inj compiled)
  obtain ⟨nodeNames, nodeLength, nodeRows⟩ := counts_of_statements (fun _ _ => Sheet.nodes_ok) hnf hns hn
  obtain ⟨relationNames, relationLength, relationRows⟩ :=
    counts_of_statements (fun _ _ => Sheet.relations_ok) hrf hrs hr
  have read : readScript _ = some _ := (readScript_scriptText sound).trans (congrArg some tokens)
  exact {
    files := by rw [← nodeNames, ← relationNames]
    rows := ⟨nodeSheets, relationSheets, hns, hrs, by rw [← nodeLength, ← relationLength], nodeRows, relationRows⟩
    script := by
      refine ⟨_, _, read_writeOutput written, read, ?_, ?_⟩
      · rw [List.countP_append, List.countP_append, countP_uniqueTokens fun _ => rfl,
          countP_sheetsTokens fun _ _ => rfl, countP_sheetsTokens_eq_zero fun _ _ => rfl]
        simpa using nodeRows
      · rw [List.countP_append, List.countP_append, countP_uniqueTokens fun _ => rfl,
          countP_sheetsTokens_eq_zero fun _ _ => rfl, countP_sheetsTokens fun _ _ => rfl]
        simpa using relationRows }

/-! ## Nothing is written in part -/

/-- Once the script is made, only writing it can fail. -/
theorem publish_error {e : PublishError} (compiled : CypherPublisher.compile c tag s = .ok (script, report))
    (h : CypherPublisher.publish c tag s = (.error e, s')) : ∃ fault, e = .io fault := by
  rw [publish_of_compile compiled] at h
  rcases hw : CypherPublisher.writeOutput s c.outputPath (scriptText script) with ⟨fault | _, _⟩ <;>
    rw [hw] at h <;> cases h
  exact ⟨fault, rfl⟩

theorem not_faulty_of_compile (h : CypherPublisher.compile c tag s = .ok (script, report)) :
    (∀ name ∈ csvNames s c.nodeDirectory, ¬ FaultyFile s nodeColumns (Path.join c.nodeDirectory name)) ∧
    ∀ name ∈ csvNames s c.relationDirectory,
      ¬ FaultyFile s Neo4j.relationColumns (Path.join c.relationDirectory name) := by
  obtain ⟨nodeFiles, hnf, h⟩ := except_bind_ok.1 h
  obtain ⟨relationFiles, hrf, h⟩ := except_bind_ok.1 h
  obtain ⟨nodes, hn, h⟩ := except_bind_ok.1 h
  obtain ⟨relations, hr, -⟩ := except_bind_ok.1 h
  constructor
  · intro name hm
    refine not_faulty_of_statements (fun _ _ => Sheet.not_faulty_of_nodes) hn _ ?_
    exact (perm_csvNames hnf).mem_iff.2 (List.mem_map_of_mem hm)
  · intro name hm
    refine not_faulty_of_statements (fun _ _ => Sheet.not_faulty_of_relations) hr _ ?_
    exact (perm_csvNames hrf).mem_iff.2 (List.mem_map_of_mem hm)

/-- **All or nothing.** A missing column, an unquoted value that is none, and a fault of a file leave everything
as it was, and one file with a fault is enough for publishing to fail so. Where publishing succeeds, the
report counts the files, and the statements of both kinds in the script. -/
theorem publish_all_or_nothing {result : Except PublishError PublishReport}
    (h : CypherPublisher.publish c tag s = (result, s')) :
    (∀ e, result = .error e → (∀ fault, e ≠ .io fault) → s' = s) ∧
    ((∃ name ∈ csvNames s c.nodeDirectory, FaultyFile s nodeColumns (Path.join c.nodeDirectory name)) ∨
      (∃ name ∈ csvNames s c.relationDirectory,
        FaultyFile s Neo4j.relationColumns (Path.join c.relationDirectory name)) →
      (∃ e, result = .error e) ∧ s' = s) ∧
    ∀ report, result = .ok report → Accounts c s s' report := by
  refine ⟨?_, fun faulty => ?_, ?_⟩
  · rintro e rfl other
    cases compiled : CypherPublisher.compile c tag s with
    | error e' =>
      rw [publish_of_compile_error compiled] at h
      exact (Prod.mk.inj h).2.symm
    | ok made =>
      obtain ⟨fault, rfl⟩ := publish_error compiled h
      exact absurd rfl (other fault)
  · cases compiled : CypherPublisher.compile c tag s with
    | error e =>
      rw [publish_of_compile_error compiled] at h
      obtain ⟨rfl, rfl⟩ := Prod.mk.inj h
      exact ⟨⟨e, rfl⟩, rfl⟩
    | ok made =>
      obtain ⟨nodes, relations⟩ := not_faulty_of_compile compiled
      rcases faulty with ⟨name, hm, faulty⟩ | ⟨name, hm, faulty⟩
      · exact absurd faulty (nodes name hm)
      · exact absurd faulty (relations name hm)
  · rintro report rfl
    exact accounts_of_publish h

end Publish

/-- A node, two relations and an earlier script; the weight in the last row is to be given. -/
def weighed (weight : String) : FileStore where
  entries := [(["nodes"], .directory), (["edges"], .directory),
    (["nodes", "t.csv"], .file (Utf8.encode "LABEL,KEY\nTable,t\n")),
    (["edges", "t.csv"], .file (Utf8.encode (
      "START_LABEL,END_LABEL,START_KEY,END_KEY,TYPE,REVERSE_TYPE,weight:UNQUOTED\n" ++
      "Table,Table,t,u,NEXT,PREVIOUS,1\n" ++ "Table,Table,u,t,NEXT,PREVIOUS," ++ weight ++ "\n"))),
    (["out.cypher"], .file (Utf8.encode "MATCH (n) RETURN n;\n"))]

def weighedConfig : CypherConfig :=
  { nodeDirectory := "/nodes", relationDirectory := "/edges", outputPath := "/out.cypher" }

/-- A word is no weight. -/
theorem faultyFile_weighed : FaultyFile (weighed "heavy") Neo4j.relationColumns "/edges/t.csv" := by
  let last : List String := ["Table", "Table", "u", "t", "NEXT", "PREVIOUS", "heavy"]
  let sheet : Sheet := {
    path := "/edges/t.csv"
    header := Neo4j.relationColumns ++ ["weight:UNQUOTED"]
    rows := [["Table", "Table", "t", "u", "NEXT", "PREVIOUS", "1"], last] }
  have read : Sheet.read (weighed "heavy") "/edges/t.csv" = .ok sheet := by decide +kernel
  have member : last ∈ sheet.rows := by decide +kernel
  have here : (sheet.header.zip last)[6]? = some ("weight:UNQUOTED", "heavy") := by decide +kernel
  refine .inr ⟨sheet, read, .cell member here ?_ ?_ ?_ ?_⟩ <;> decide +kernel

/-- A word for a weight in the last row of the last file spoils all, and the earlier script stays; with a
number there, the statements beside the constraint are counted. -/
theorem publish_weighed :
    CypherPublisher.publish weighedConfig "run" (weighed "heavy") =
      (.error (.invalidUnquotedValue "weight:UNQUOTED" "heavy" "/edges/t.csv"), weighed "heavy") ∧
    (weighed "heavy").read "/out.cypher" = .ok (Utf8.encode "MATCH (n) RETURN n;\n") ∧
    ∃ s', CypherPublisher.publish weighedConfig "run" (weighed "2") =
        (.ok { files := 2, nodes := 1, relations := 2, output := some "/out.cypher" }, s') ∧
      Accounts weighedConfig (weighed "2") s'
        { files := 2, nodes := 1, relations := 2, output := some "/out.cypher" } := by
  have refused : (CypherPublisher.publish weighedConfig "run" (weighed "heavy")).1 =
      .error (.invalidUnquotedValue "weight:UNQUOTED" "heavy" "/edges/t.csv") := by decide +kernel
  have published : (CypherPublisher.publish weighedConfig "run" (weighed "2")).1 =
      .ok { files := 2, nodes := 1, relations := 2, output := some "/out.cypher" } := by decide +kernel
  have named : "t.csv" ∈ csvNames (weighed "heavy") weighedConfig.relationDirectory := by decide +kernel
  have unchanged := (publish_all_or_nothing (Prod.ext refused rfl)).2.1 (.inr ⟨"t.csv", named, faultyFile_weighed⟩)
  have whole : CypherPublisher.publish weighedConfig "run" (weighed "2") = (.ok _, _) := Prod.ext published rfl
  exact ⟨Prod.ext refused unchanged.2, by decide +kernel, _, whole, (publish_all_or_nothing whole).2.2 _ rfl⟩

end MetaGraph.Cypher

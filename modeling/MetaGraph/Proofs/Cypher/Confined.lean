/-
Data stays in its place. The script that is published from files is read as
one statement for each row, and the statement is the one that the row says:
which tokens it has depends on the header of the file and on which cells of
marked columns are empty, and each label, key, type, property, value and tag
is the text of one of them.
-/
import MetaGraph.Proofs.Csv.Width
import MetaGraph.Proofs.Cypher.Output
import MetaGraph.Proofs.Cypher.Sheets
import MetaGraph.Proofs.Cypher.Tokens
import MetaGraph.Proofs.Text.Utf8

namespace MetaGraph.Cypher

/-! ## What a row says -/

/-- What a cell sets: its text or, in a marked column, the bare value in it, if any. -/
def setting? (x : String × String) : Option Setting :=
  match Text.dropTail? unquotedMark x.1 with
  | none => some (x.1, .string x.2)
  | some plain => if x.2 = "" then none else some (plain, .literal (Text.trim x.2))

/-- What the cells set whose columns are not reserved; columns are counted from `i`. -/
def cellSettings (reserved : List Nat) (i : Nat) (cells : List (String × String)) : List Setting :=
  ((cells.zipIdx i).filter fun x => !reserved.contains x.2).filterMap fun x => setting? x.1

theorem cellSettings_cons (reserved : List Nat) (i : Nat) (x : String × String) (cells : List (String × String)) :
    cellSettings reserved i (x :: cells) = if reserved.contains i then cellSettings reserved (i + 1) cells
      else (setting? x).toList ++ cellSettings reserved (i + 1) cells := by
  rw [cellSettings, List.zipIdx_cons, List.filter_cons]
  split
  · rename_i h
    rw [if_neg (by simpa using h), List.filterMap_cons]
    cases setting? x <;> rfl
  · rename_i h
    rw [if_pos (by simpa using h)]
    rfl

/-- All that a row sets, the tag of the run last. -/
def rowSettings (reserved : List String) (tag : String) (header row : List String) : List Setting :=
  cellSettings (reserved.map header.idxOf) 0 (header.zip row) ++ [("published_tag", .string tag)]

/-- The cell of a row in the first column of a name. -/
def cellOf (header row : List String) (name : String) : String := row[header.idxOf name]?.getD ""

/-- The tokens of the statement of a row of nodes. -/
def nodeTokens (tag : String) (header row : List String) : List Token :=
  mergeNodeTokens (cellOf header row "LABEL") (cellOf header row "KEY")
    (rowSettings ["LABEL", "KEY"] tag header row)

/-- The tokens of the statement of a row of relations. -/
def relationTokens (tag : String) (header row : List String) : List Token :=
  mergeRelationTokens (cellOf header row "START_LABEL") (cellOf header row "START_KEY")
    (cellOf header row "END_LABEL") (cellOf header row "END_KEY") (cellOf header row "TYPE")
    (cellOf header row "REVERSE_TYPE") (rowSettings Neo4j.relationColumns tag header row)

/-! ## Rows and their statements -/

theorem isBare_of_isLiteral {s : String} (h : isLiteral s = true) : isBare (Text.trim s).toList = true := by
  simp only [isLiteral, Bool.or_eq_true, Bool.and_eq_true, decide_eq_true_eq] at h
  simp only [isBare, Text.trim, String.toList_ofList, Bool.or_eq_true, decide_eq_true_eq]
  rcases h with (h | h) | h
  · exact .inl (.inl h)
  · exact .inl (.inr h)
  · exact .inr h.1.2

theorem trim_ne_empty_of_isLiteral {s : String} (h : isLiteral s = true) : Text.trim s ≠ "" := by
  intro he
  have none : Text.trimChars s.toList = [] := by simpa [Text.trim] using congrArg String.toList he
  simp [isLiteral, none] at h

namespace Sheet

variable {sheet : Sheet}

theorem assignment?_ok {name cell : String} {a : Option Assignment}
    (h : sheet.assignment? name cell = .ok a) :
    a.map Assignment.setting = setting? (name, cell) ∧ ∀ b ∈ a, b.value.Sound := by
  unfold assignment? at h
  unfold setting?
  split at h
  · rename_i hm
    cases h
    simp [hm, Assignment.setting, Value.token, Value.Sound]
  rename_i plain hm
  rw [hm]
  dsimp only
  split at h
  · rename_i empty
    cases h
    simp [empty]
  split at h
  · rename_i given literal
    cases h
    simp [given, Assignment.setting, Value.token, Value.Sound, isBare_of_isLiteral literal,
      trim_ne_empty_of_isLiteral literal]
  · cases h

theorem assignments_ok {reserved : List Nat} {cells : List (String × String)} {i : Nat}
    {as : List Assignment} (h : sheet.assignments reserved i cells = .ok as) :
    as.map Assignment.setting = cellSettings reserved i cells ∧ ∀ a ∈ as, a.value.Sound := by
  induction cells generalizing i as with
  | nil =>
    cases h
    exact ⟨rfl, nofun⟩
  | cons x cells ih =>
    obtain ⟨name, cell⟩ := x
    rw [assignments] at h
    rw [cellSettings_cons]
    split at h
    · rename_i hr
      rw [if_pos hr]
      exact ih h
    · rename_i hr
      rw [if_neg hr]
      obtain ⟨here, hh, h⟩ := except_bind_ok.1 h
      obtain ⟨rest, hrest, h⟩ := except_bind_ok.1 h
      cases h
      obtain ⟨set, sound⟩ := assignment?_ok hh
      obtain ⟨sets, sounds⟩ := ih hrest
      refine ⟨by rw [List.map_append, sets, ← set, Option.toList_map], ?_⟩
      exact List.forall_mem_append.2 ⟨by simpa using sound, sounds⟩

theorem column_ok {name : String} {i : Nat} (h : sheet.column name = .ok i) :
    i = sheet.header.idxOf name := by
  unfold column at h
  split at h
  · rename_i hi
    cases h
    exact (List.findIdx?_eq_some_iff_findIdx_eq.1 hi).2.symm
  · cases h

theorem columns_ok {names : List String} {places : List Nat} (h : names.mapM sheet.column = .ok places) :
    places = names.map sheet.header.idxOf := by
  simpa using map_mapM_ok (k := id) (fun _ _ => column_ok) h

theorem sets_ok {reserved : List String} {tag : String} {row : List String} {as : List Assignment}
    (h : sheet.sets (reserved.map sheet.header.idxOf) tag row = .ok as) :
    as.map Assignment.setting = rowSettings reserved tag sheet.header row ∧
      as ≠ [] ∧ ∀ a ∈ as, a.value.Sound := by
  obtain ⟨as, has, h⟩ := except_bind_ok.1 h
  cases h
  obtain ⟨sets, sounds⟩ := assignments_ok has
  refine ⟨?_, by simp, List.forall_mem_append.2 ⟨sounds, by simp [tagAssignment, Value.Sound]⟩⟩
  rw [List.map_append, sets]
  rfl

theorem mapRows_ok {f : List String → Except PublishError Statement} {tokens : List String → List Token}
    (hf : ∀ row st, f row = .ok st → st.tokens = tokens row ∧ st.Sound) {ss : List Statement}
    (h : sheet.mapRows f = .ok ss) :
    ss.map Statement.tokens = sheet.rows.map tokens ∧ ∀ st ∈ ss, st.Sound := by
  obtain ⟨ss, hss, h⟩ := except_bind_ok.1 h
  split at h
  · cases h
  · cases h
    refine ⟨map_mapM_ok (fun row st hr => (hf row st hr).1) hss, fun st hst => ?_⟩
    obtain ⟨row, -, hr⟩ := mem_mapM_ok hss st hst
    exact (hf row st hr).2

/-- The statements of a sheet of nodes are those that its rows say. -/
theorem nodes_ok {tag : String} {ss : List Statement} (h : sheet.nodes tag = .ok ss) :
    ss.map Statement.tokens = sheet.rows.map (nodeTokens tag sheet.header) ∧ ∀ st ∈ ss, st.Sound := by
  obtain ⟨label, hl, h⟩ := except_bind_ok.1 h
  obtain ⟨key, hk, h⟩ := except_bind_ok.1 h
  obtain rfl := column_ok hl
  obtain rfl := column_ok hk
  refine mapRows_ok (fun row st hr => ?_) h
  obtain ⟨as, has, hr⟩ := except_bind_ok.1 hr
  cases hr
  obtain ⟨sets, given, sound⟩ : as.map Assignment.setting = rowSettings ["LABEL", "KEY"] tag sheet.header row ∧
    as ≠ [] ∧ ∀ a ∈ as, a.value.Sound := sets_ok has
  refine ⟨?_, given, sound⟩
  rw [Statement.tokens, sets]
  rfl

/-- The statements of a sheet of relations are those that its rows say. -/
theorem relations_ok {tag : String} {ss : List Statement} (h : sheet.relations tag = .ok ss) :
    ss.map Statement.tokens = sheet.rows.map (relationTokens tag sheet.header) ∧ ∀ st ∈ ss, st.Sound := by
  obtain ⟨reserved, hres, h⟩ := except_bind_ok.1 h
  obtain rfl := columns_ok hres
  refine mapRows_ok (fun row st hr => ?_) h
  obtain ⟨as, has, hr⟩ := except_bind_ok.1 hr
  cases hr
  obtain ⟨sets, given, sound⟩ := sets_ok has
  refine ⟨?_, given, sound⟩
  rw [Statement.tokens, sets]
  rfl

end Sheet

/-! ## Files and the script of all -/

/-- The sheets in the files of a directory. -/
def sheetsIn (s : FileStore) (directory : String) : Except PublishError (List Sheet) := do
  (← CypherPublisher.csvFiles s directory).mapM (Sheet.read s)

/-- The tokens of the statements that the rows of sheets say, row by row. -/
def sheetsTokens (rowTokens : List String → List String → List Token) (sheets : List Sheet) :
    List (List Token) :=
  sheets.flatMap fun sheet => sheet.rows.map (rowTokens sheet.header)

theorem statements_ok {s : FileStore} {f : Sheet → Except PublishError (List Statement)}
    {rowTokens : List String → List String → List Token}
    (hf : ∀ sheet ss, f sheet = .ok ss →
      ss.map Statement.tokens = sheet.rows.map (rowTokens sheet.header) ∧ ∀ st ∈ ss, st.Sound)
    {paths : List String} {ss : List Statement} (h : CypherPublisher.statements s f paths = .ok ss) :
    ∃ sheets, paths.mapM (Sheet.read s) = .ok sheets ∧
      ss.map Statement.tokens = sheetsTokens rowTokens sheets ∧ ∀ st ∈ ss, st.Sound := by
  obtain ⟨parts, hparts, h⟩ := except_bind_ok.1 h
  cases h
  clear h
  induction paths generalizing parts with
  | nil =>
    cases hparts
    exact ⟨[], rfl, rfl, nofun⟩
  | cons path paths ih =>
    rw [List.mapM_cons, except_bind_ok] at hparts
    obtain ⟨first, hfirst, hparts⟩ := hparts
    obtain ⟨rest, hrest, hparts⟩ := except_bind_ok.1 hparts
    cases hparts
    obtain ⟨sheet, hsheet, hfirst⟩ := except_bind_ok.1 hfirst
    obtain ⟨tokens, sound⟩ := hf sheet first hfirst
    obtain ⟨sheets, hsheets, later, sounds⟩ := ih rest hrest
    refine ⟨sheet :: sheets, ?_, ?_, ?_⟩
    · rw [List.mapM_cons, hsheet, hsheets]
      rfl
    · rw [List.flatten_cons, List.map_append, tokens, later]
      rfl
    · rw [List.flatten_cons]
      exact List.forall_mem_append.2 ⟨sound, sounds⟩

theorem nodeLabel?_of_tokens {st : Statement} {label key : String} {settings : List Setting}
    (h : st.tokens = mergeNodeTokens label key settings) : st.nodeLabel? = some label := by
  cases st with
  | unique | relation => simp [Statement.tokens, uniqueTokens, mergeRelationTokens, mergeNodeTokens] at h
  | node n sets =>
    have fifth := congrArg (·[4]?) h
    simpa [Statement.tokens, mergeNodeTokens, patternTokens, Statement.nodeLabel?] using fifth

/-- The script of the files in two directories, by their rows. -/
theorem compile_ok {c : CypherConfig} {tag : String} {s : FileStore} {script : List Statement}
    {report : PublishReport} (h : CypherPublisher.compile c tag s = .ok (script, report)) :
    ∃ (nodeSheets relationSheets : List Sheet) (labels : List String),
      sheetsIn s c.nodeDirectory = .ok nodeSheets ∧ sheetsIn s c.relationDirectory = .ok relationSheets ∧
      labels.Nodup ∧ (∀ l, l ∈ labels ↔ ∃ sheet ∈ nodeSheets, ∃ row ∈ sheet.rows,
        cellOf sheet.header row "LABEL" = l) ∧
      script.map Statement.tokens = labels.map uniqueTokens ++ sheetsTokens (nodeTokens tag) nodeSheets ++
        sheetsTokens (relationTokens tag) relationSheets ∧
      ∀ st ∈ script, st.Sound := by
  obtain ⟨nodeFiles, hnf, h⟩ := except_bind_ok.1 h
  obtain ⟨relationFiles, hrf, h⟩ := except_bind_ok.1 h
  obtain ⟨nodes, hn, h⟩ := except_bind_ok.1 h
  obtain ⟨relations, hr, h⟩ := except_bind_ok.1 h
  cases h
  obtain ⟨nodeSheets, hns, hnodes, nodeSound⟩ := statements_ok (fun _ _ => Sheet.nodes_ok) hn
  obtain ⟨relationSheets, hrs, hrelations, relationSound⟩ :=
    statements_ok (fun _ _ => Sheet.relations_ok) hr
  refine ⟨nodeSheets, relationSheets, labels nodes, except_bind_ok.2 ⟨nodeFiles, hnf, hns⟩,
    except_bind_ok.2 ⟨relationFiles, hrf, hrs⟩, nodup_labels nodes, fun l => ?_, ?_, ?_⟩
  · have rows (ts : List Token) : (∃ st ∈ nodes, st.tokens = ts) ↔ ∃ sheet ∈ nodeSheets, ∃ row ∈ sheet.rows,
        nodeTokens tag sheet.header row = ts := by
      simpa [sheetsTokens] using iff_of_eq (congrArg (ts ∈ ·) hnodes)
    rw [mem_labels]
    constructor
    · rintro ⟨st, hst, hl⟩
      obtain ⟨sheet, hsheet, row, hrow, htokens⟩ := (rows st.tokens).1 ⟨st, hst, rfl⟩
      rw [nodeLabel?_of_tokens htokens.symm, Option.some.injEq] at hl
      exact ⟨sheet, hsheet, row, hrow, hl⟩
    · rintro ⟨sheet, hsheet, row, hrow, rfl⟩
      obtain ⟨st, hst, htokens⟩ := (rows _).2 ⟨sheet, hsheet, row, hrow, rfl⟩
      exact ⟨st, hst, nodeLabel?_of_tokens htokens⟩
  · simp only [script, List.map_append, List.map_map, hnodes, hrelations]
    rfl
  · simp only [script, List.forall_mem_append]
    refine ⟨⟨fun st hst => ?_, nodeSound⟩, relationSound⟩
    obtain ⟨label, -, rfl⟩ := List.mem_map.1 hst
    trivial

/-! ## The shape of a statement -/

/-- What a token is, without its text. -/
inductive Token.Kind where
  | name
  | string
  | literal
  | symbol (c : Char)
deriving DecidableEq, Repr

def Token.kind : Token → Kind
  | name _ => .name
  | string _ => .string
  | literal _ => .literal
  | symbol c => .symbol c

/-- Which cells are empty, of those in marked columns. -/
def blanks (header row : List String) : List Bool :=
  (header.zip row).map fun x => (Text.dropTail? unquotedMark x.1).isSome && decide (x.2 = "")

theorem kinds_settingsTokens (elements : List String) {xs ys : List Setting}
    (h : xs.map (·.2.kind) = ys.map (·.2.kind)) :
    (settingsTokens elements xs).map Token.kind = (settingsTokens elements ys).map Token.kind := by
  have kinds (zs : List Setting) : (settingsTokens elements zs).map Token.kind =
      [Token.Kind.symbol ','].intercalate (elements.flatMap fun _ =>
        (zs.map (·.2.kind)).map fun k => [.name, .symbol '.', .name, .symbol '=', k]) := by
    simp [settingsTokens, map_intercalate, List.map_flatMap, settingTokens, Token.kind, Function.comp_def]
  rw [kinds, kinds, h]

theorem kind_setting? {name cell cell' : String}
    (h : ((Text.dropTail? unquotedMark name).isSome && decide (cell = "")) =
      ((Text.dropTail? unquotedMark name).isSome && decide (cell' = ""))) :
    (setting? (name, cell)).map (·.2.kind) = (setting? (name, cell')).map (·.2.kind) := by
  unfold setting?
  dsimp only
  split
  · rfl
  · rename_i plain hm
    have blank : cell = "" ↔ cell' = "" := by simpa [hm] using h
    by_cases empty : cell = ""
    · rw [if_pos empty, if_pos (blank.1 empty)]
    · rw [if_neg empty, if_neg (mt blank.2 empty)]
      rfl

theorem kinds_cellSettings {reserved : List Nat} {header row row' : List String} {i : Nat}
    (h : blanks header row = blanks header row') :
    (cellSettings reserved i (header.zip row)).map (·.2.kind) =
      (cellSettings reserved i (header.zip row')).map (·.2.kind) := by
  induction header generalizing row row' i with
  | nil => rfl
  | cons name header ih =>
    cases row with
    | nil =>
      cases row' with
      | nil => rfl
      | cons cell' row' => cases h
    | cons cell row =>
      cases row' with
      | nil => cases h
      | cons cell' row' =>
        obtain ⟨here, later⟩ := List.cons.inj h
        rw [List.zip_cons_cons, List.zip_cons_cons, cellSettings_cons, cellSettings_cons]
        split
        · exact ih later
        · rw [List.map_append, List.map_append, ih later, ← Option.toList_map, ← Option.toList_map,
            kind_setting? here]

theorem kinds_rowSettings (reserved : List String) (tag tag' : String) {header row row' : List String}
    (h : blanks header row = blanks header row') :
    (rowSettings reserved tag header row).map (·.2.kind) =
      (rowSettings reserved tag' header row').map (·.2.kind) := by
  rw [rowSettings, rowSettings, List.map_append, List.map_append, kinds_cellSettings h]
  rfl

/-- The shape of a row's statement depends on the header and on which cells of marked
columns are empty, and on nothing else that the row or the run says. -/
def ShapeFixed (rowTokens : String → List String → List String → List Token) : Prop :=
  ∀ tag tag' header row row', blanks header row = blanks header row' →
    (rowTokens tag header row).map Token.kind = (rowTokens tag' header row').map Token.kind

theorem shapeFixed_nodeTokens : ShapeFixed nodeTokens := by
  intro tag tag' header row row' h
  have settings := kinds_settingsTokens ["n"] (kinds_rowSettings ["LABEL", "KEY"] tag tag' h)
  simp [nodeTokens, mergeNodeTokens, patternTokens, Token.kind, settings]

theorem shapeFixed_relationTokens : ShapeFixed relationTokens := by
  intro tag tag' header row row' h
  have settings := kinds_settingsTokens ["r1", "r2"] (kinds_rowSettings Neo4j.relationColumns tag tag' h)
  simp [relationTokens, mergeRelationTokens, patternTokens, Token.kind, settings]

/-! ## What is published -/

theorem width_of_sheetsIn {s : FileStore} {directory : String} {sheets : List Sheet}
    (h : sheetsIn s directory = .ok sheets) : ∀ sheet ∈ sheets, ∀ row ∈ sheet.rows,
      row.length = sheet.header.length := by
  intro sheet hs
  obtain ⟨paths, -, h⟩ := except_bind_ok.1 h
  obtain ⟨path, -, h⟩ := mem_mapM_ok h sheet hs
  unfold Sheet.read at h
  split at h
  · cases h
  · cases h
  split at h
  · cases h
  · rename_i hh
    cases h
    exact Csv.Reader.length_rows hh

/-- **Data stays in its place.** Whatever the files and the tag hold, a script that is
published is read as one statement for each label, then one for each row: the statement
that the row says, of which each name, string and bare value is the text of a cell, of
a column's name or of the tag. All rows of a file are as wide as its header, and of one
header the shape of a row's statement tells no more than which cells of marked columns
are empty. -/
theorem publish_confined {c : CypherConfig} {tag : String} {s s' : FileStore} {report : PublishReport}
    (h : CypherPublisher.publish c tag s = (.ok report, s')) :
    (∃ (nodeSheets relationSheets : List Sheet) (labels : List String) (text : String),
      sheetsIn s c.nodeDirectory = .ok nodeSheets ∧ sheetsIn s c.relationDirectory = .ok relationSheets ∧
      (∀ sheet ∈ nodeSheets ++ relationSheets, ∀ row ∈ sheet.rows, row.length = sheet.header.length) ∧
      labels.Nodup ∧ (∀ l, l ∈ labels ↔ ∃ sheet ∈ nodeSheets, ∃ row ∈ sheet.rows,
        cellOf sheet.header row "LABEL" = l) ∧
      s'.read c.outputPath = .ok (Utf8.encode text) ∧
      readScript text = some (labels.map uniqueTokens ++ sheetsTokens (nodeTokens tag) nodeSheets ++
        sheetsTokens (relationTokens tag) relationSheets)) ∧
    ShapeFixed nodeTokens ∧ ShapeFixed relationTokens := by
  refine ⟨?_, shapeFixed_nodeTokens, shapeFixed_relationTokens⟩
  obtain ⟨script, hc, written⟩ := publish_ok h
  obtain ⟨nodeSheets, relationSheets, labels, hns, hrs, distinct, members, tokens, sound⟩ := compile_ok hc
  have wide := List.forall_mem_append.2 ⟨width_of_sheetsIn hns, width_of_sheetsIn hrs⟩
  exact ⟨nodeSheets, relationSheets, labels, scriptText script, hns, hrs, wide, distinct, members,
    read_writeOutput written, (readScript_scriptText sound).trans (congrArg some tokens)⟩

/-- A file of two rows that hold quotes of all kinds, a backslash and semicolons. -/
def oddSheet : Sheet where
  path := "/nodes/odd.csv"
  header := ["KEY", "LABEL", "the note", "rows:UNQUOTED"]
  rows := [["it's;", "\x60Odd\x60", "\\'; DELETE", " 1e3"], ["k2", "T", "", ""]]

def oddFiles : FileStore where
  entries := [(["nodes"], .directory), (["nodes", "odd.csv"], .file (Utf8.encode
    "KEY,LABEL,the note,rows:UNQUOTED\nit's;,\x60Odd\x60,\\'; DELETE, 1e3\nk2,T,,\n"))]

def oddConfig : CypherConfig where
  nodeDirectory := "/nodes"
  relationDirectory := "/relations"
  outputPath := "/out.cypher"

/-- Both rows are read back from the script, and nothing in them ends a statement. -/
theorem publish_oddFiles :
    ∃ (labels : List String) (text : String), labels.Nodup ∧ (∀ l, l ∈ labels ↔ l = "\x60Odd\x60" ∨ l = "T") ∧
      (CypherPublisher.publish oddConfig "me;'" oddFiles).2.read "/out.cypher" = .ok (Utf8.encode text) ∧
      readScript text = some (labels.map uniqueTokens ++
        [mergeNodeTokens "\x60Odd\x60" "it's;"
          [("the note", .string "\\'; DELETE"), ("rows", .literal "1e3"), ("published_tag", .string "me;'")],
        mergeNodeTokens "T" "k2" [("the note", .string ""), ("published_tag", .string "me;'")]]) := by
  have accepted : (CypherPublisher.publish oddConfig "me;'" oddFiles).1 =
      .ok { files := 1, nodes := 2, relations := 0, output := some "/out.cypher" } :=
    except_eq_ok_of_toOption (by decide +kernel)
  obtain ⟨⟨nodeSheets, relationSheets, labels, text, hn, hr, -, distinct, members, written, read⟩, -, -⟩ :=
    publish_confined (Prod.ext accepted rfl)
  have ofNodes : sheetsIn oddFiles "/nodes" = .ok [oddSheet] := except_eq_ok_of_toOption (by decide +kernel)
  have ofRelations : sheetsIn oddFiles "/relations" = .ok [] := except_eq_ok_of_toOption (by decide +kernel)
  obtain rfl : [oddSheet] = nodeSheets := Except.ok.inj (ofNodes.symm.trans hn)
  obtain rfl : [] = relationSheets := Except.ok.inj (ofRelations.symm.trans hr)
  refine ⟨labels, text, distinct, fun l => ?_, written, ?_⟩
  · have named : oddSheet.rows.map (cellOf oddSheet.header · "LABEL") = ["\x60Odd\x60", "T"] := by
      decide +kernel
    rw [members]
    simpa using iff_of_eq (congrArg (l ∈ ·) named)
  · have rows : sheetsTokens (nodeTokens "me;'") [oddSheet] ++ sheetsTokens (relationTokens "me;'") [] =
      [mergeNodeTokens "\x60Odd\x60" "it's;"
          [("the note", .string "\\'; DELETE"), ("rows", .literal "1e3"), ("published_tag", .string "me;'")],
        mergeNodeTokens "T" "k2" [("the note", .string ""), ("published_tag", .string "me;'")]] := by
      decide +kernel
    rw [read, List.append_assoc, rows]

end MetaGraph.Cypher

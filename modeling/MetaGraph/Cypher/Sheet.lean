/-
Bulk-load files as sheets: a header and rows of cells. Each row of a sheet of
nodes or of relations makes one statement.
-/
import MetaGraph.Bulk.Neo4j
import MetaGraph.Cypher.Statement
import MetaGraph.Pipeline.Error

namespace MetaGraph.Cypher

/-- The content of a file: a header and rows of cells. -/
structure Sheet where
  path : String
  header : List String
  rows : List (List String)
  /-- The fault that ended the reading of rows. -/
  fault : Option Csv.CsvError := none
deriving DecidableEq, Repr

namespace Sheet

/-- The sheet in a file. -/
def read (s : FileStore) (path : String) : Except PublishError Sheet :=
  match s.find path with
  | .error e => .error (.csv (.io e))
  | .ok (_, .directory) => .error (.csv (.io .isADirectory))
  | .ok (_, .file content) =>
    match (Csv.Reader.ofBytes content).header with
    | (.error e, _) => .error (.csv e)
    | (.ok header, r) =>
      let (rows, fault) := r.rows
      .ok { path, header, rows, fault }

/-- The place of a column, which has to be there. -/
def column (sheet : Sheet) (name : String) : Except PublishError Nat :=
  match sheet.header.findIdx? (· == name) with
  | some i => .ok i
  | none => .error (.missingColumn name sheet.path)

/-- What a cell sets, if it sets anything: an empty cell of a marked column does not,
and any other one there has to hold a number or a boolean. -/
def assignment? (sheet : Sheet) (name cell : String) : Except PublishError (Option Assignment) :=
  match Text.dropTail? unquotedMark name with
  | none => .ok (some ⟨name, .quoted cell⟩)
  | some plain =>
    if cell = "" then .ok none
    else if isLiteral cell then .ok (some ⟨plain, .bare (Text.trim cell)⟩)
    else .error (.invalidUnquotedValue name cell sheet.path)

/-- What the cells set whose columns are not reserved; columns are counted from `i`. -/
def assignments (sheet : Sheet) (reserved : List Nat) :
    Nat → List (String × String) → Except PublishError (List Assignment)
  | _, [] => .ok []
  | i, (name, cell) :: rest =>
    if reserved.contains i then assignments sheet reserved (i + 1) rest
    else do
      let here ← sheet.assignment? name cell
      let rest ← assignments sheet reserved (i + 1) rest
      pure (here.toList ++ rest)

/-- The property that tells by which run an element was published. -/
def tagAssignment (tag : String) : Assignment := ⟨"published_tag", .quoted tag⟩

/-- What a row sets, the tag of the run last. -/
def sets (sheet : Sheet) (reserved : List Nat) (tag : String) (row : List String) :
    Except PublishError (List Assignment) := do
  pure ((← sheet.assignments reserved 0 (sheet.header.zip row)) ++ [tagAssignment tag])

def cell (row : List String) (i : Nat) : String := row[i]?.getD ""

/-- Goes through the rows in order; the fault that ended the reading comes after them. -/
def mapRows (sheet : Sheet) (f : List String → Except PublishError Statement) :
    Except PublishError (List Statement) := do
  let statements ← sheet.rows.mapM f
  match sheet.fault with
  | some e => throw (.csv e)
  | none => pure statements

/-- The statements of a sheet of nodes. -/
def nodes (sheet : Sheet) (tag : String) : Except PublishError (List Statement) := do
  let label ← sheet.column Neo4j.labelColumn
  let key ← sheet.column Neo4j.keyColumn
  sheet.mapRows fun row => do
    let sets ← sheet.sets [label, key] tag row
    pure (.node ⟨cell row label, cell row key⟩ sets)

/-- The statements of a sheet of relations. -/
def relations (sheet : Sheet) (tag : String) : Except PublishError (List Statement) := do
  let reserved ← Neo4j.relationColumns.mapM sheet.column
  let at_ (row : List String) (i : Nat) : String := cell row (reserved[i]?.getD 0)
  sheet.mapRows fun row => do
    let sets ← sheet.sets reserved tag row
    pure (.relation ⟨at_ row 0, at_ row 2⟩ ⟨at_ row 1, at_ row 3⟩ (at_ row 4) (at_ row 5) sets)

end Sheet

/-- The label of a node statement. -/
def Statement.nodeLabel? : Statement → Option String
  | .node n _ => some n.label
  | _ => none

/-- The labels of nodes, each once, in their order. -/
def labels (nodes : List Statement) : List String :=
  (KeyMap.ofList ((nodes.filterMap Statement.nodeLabel?).map fun l => (l, ()))).map Prod.fst

/-- The script: the keys of every label are unique, then the nodes, then the relations. -/
def script (nodes relations : List Statement) : List Statement :=
  (labels nodes).map .unique ++ nodes ++ relations

end MetaGraph.Cypher

/-
The files of single elements. All rows of an element have the same columns,
so they belong to one file, which the first of them finds open, makes or
fails to make. A model is written element by element, in the order in which
it hands them out.
-/
import MetaGraph.Proofs.Bulk.Written
import MetaGraph.Proofs.Files.Placed
import MetaGraph.Proofs.Graph.Pulls

namespace MetaGraph

open BulkFiles (FileKey Line)

/-! ## Elements as rows -/

namespace Element

/-- What the file of an element is named after. -/
def stem : Element → String
  | node n => n.label
  | relation r => BulkFiles.relationStem r

/-- The directory in which the file of an element stands. -/
def directory (c : BulkLoaderConfig) : Element → String
  | node _ => c.nodeDirectory
  | relation _ => c.relationDirectory

def rows (format : BulkFormat) : Element → List Row
  | node n => BulkFiles.nodeRows format n
  | relation r => BulkFiles.relationRows format r

/-- The columns of all rows of an element. -/
def columns (format : BulkFormat) (x : Element) : List String :=
  ((x.rows format).head?.map Row.columns).getD []

def key (format : BulkFormat) (x : Element) : FileKey := (x.stem, x.columns format)

def lines (format : BulkFormat) (x : Element) : List Line := (x.rows format).map (Line.mk x.stem)

/-- The output after one more element. -/
def counted (o : BulkOutput) : Element → BulkOutput
  | node _ => { o with nodes := o.nodes + 1 }
  | relation _ => { o with relations := o.relations + 1 }

@[simp] theorem counted_openFiles (o : BulkOutput) (x : Element) : (x.counted o).openFiles = o.openFiles := by
  cases x <;> rfl

@[simp] theorem counted_counts (o : BulkOutput) (x : Element) : (x.counted o).counts = o.counts := by
  cases x <;> rfl

theorem counted_nodes (o : BulkOutput) (x : Element) :
    (x.counted o).nodes = o.nodes + [x].countP (·.isNode) := by
  cases x <;> rfl

theorem counted_relations (o : BulkOutput) (x : Element) :
    (x.counted o).relations = o.relations + [x].countP (!·.isNode) := by
  cases x <;> rfl

def write (c : BulkLoaderConfig) (b : BulkFiles) : Element → Except LoadError Unit × BulkFiles
  | node n => b.writeNode c n
  | relation r => b.writeRelation c r

theorem rows_ne_nil (format : BulkFormat) (x : Element) : x.rows format ≠ [] := by
  cases x <;> cases format <;> exact List.cons_ne_nil _ _

/-- The edges of a relation have the same columns in both directions. -/
theorem columns_of_mem_rows {format : BulkFormat} {x : Element} {row : Row} (h : row ∈ x.rows format) :
    row.columns = x.columns format := by
  cases x with
  | node n => cases format <;> rw [List.mem_singleton.1 h] <;> rfl
  | relation r =>
    cases format with
    | neo4j => rw [List.mem_singleton.1 h]; rfl
    | neptune =>
      rcases List.mem_cons.1 h with rfl | h
      · rfl
      · rw [List.mem_singleton.1 h]; rfl

theorem key_of_mem_lines {format : BulkFormat} {x : Element} {l : Line} (h : l ∈ x.lines format) :
    l.key = x.key format := by
  obtain ⟨row, hr, rfl⟩ := List.mem_map.1 h
  rw [Line.key, key, columns_of_mem_rows hr]

/-- The first two columns of an element. -/
def leading (format : BulkFormat) (isNode : Bool) : List String :=
  match format, isNode with
  | .neo4j, true => [Neo4j.labelColumn, Neo4j.keyColumn]
  | .neo4j, false => Neo4j.relationColumns.take 2
  | .neptune, true => ["~id", "~label"]
  | .neptune, false => ["~id", "~from"]

theorem take_columns (format : BulkFormat) (x : Element) :
    (x.columns format).take 2 = leading format x.isNode := by
  cases x <;> cases format <;> rfl

/-- A node and a relation never share a file, since their leading columns differ. -/
theorem isNode_of_key_eq {format : BulkFormat} {x y : Element} (h : x.key format = y.key format) :
    x.isNode = y.isNode := by
  have same : x.columns format = y.columns format := congrArg Prod.snd h
  have leads : leading format x.isNode = leading format y.isNode := by
    rw [← take_columns, ← take_columns, same]
  have apart : ∀ {a b}, leading format a = leading format b → a = b := by
    cases format <;> decide
  exact apart leads

theorem directory_of_key_eq (c : BulkLoaderConfig) {format : BulkFormat} {x y : Element}
    (h : x.key format = y.key format) : x.directory c = y.directory c := by
  have := isNode_of_key_eq h
  cases x <;> cases y <;> first | rfl | cases this

/-- The text of an element's rows. -/
def content (format : BulkFormat) (x : Element) : Bytes :=
  (x.rows format).flatMap (Csv.rowBytes ·.cells)

theorem rowsOf_lines (format : BulkFormat) (x : Element) (key : FileKey) :
    BulkFiles.rowsOf key (x.lines format) =
      if x.key format = key then (x.rows format).map Row.cells else [] := by
  rw [BulkFiles.rowsOf]
  split
  · rename_i h
    rw [List.filter_eq_self.2 fun l hl => by simp [key_of_mem_lines hl, h], lines, List.map_map]
    rfl
  · rename_i h
    rw [List.filter_eq_nil_iff.2 fun l hl => by simp [key_of_mem_lines hl, h], List.map_nil]

theorem rowsOf_of_none {format : BulkFormat} {key : FileKey} {xs : List Element}
    (none : ∀ x ∈ xs, x.key format ≠ key) : BulkFiles.rowsOf key (xs.flatMap (lines format)) = [] := by
  rw [BulkFiles.rowsOf, List.filter_eq_nil_iff.2, List.map_nil]
  intro l hl
  obtain ⟨x, hx, hl⟩ := List.mem_flatMap.1 hl
  simpa [key_of_mem_lines hl] using none x hx

theorem contentOf_append_lines (format : BulkFormat) (key : FileKey) (lines : List Line) (x : Element) :
    BulkFiles.contentOf key (lines ++ x.lines format) =
      if x.key format = key then BulkFiles.contentOf key lines ++ x.content format
      else BulkFiles.contentOf key lines := by
  have rows : BulkFiles.rowsOf key (lines ++ x.lines format) =
      BulkFiles.rowsOf key lines ++ BulkFiles.rowsOf key (x.lines format) := by
    simp [BulkFiles.rowsOf]
  rw [BulkFiles.contentOf, BulkFiles.contentOf, rows, rowsOf_lines]
  split <;> simp [content, List.flatMap_map]

end Element

/-- A valid element is named after a word that starts with a capital. -/
theorem Element.Valid.isStem {x : Element} (h : x.Valid) : BulkFiles.IsStem x.stem := by
  cases x with
  | node n =>
    have stem := BulkFiles.isStem_of_checkLabel (Node.valid_iff.1 h).2 ""
    rwa [String.append_empty] at stem
  | relation r =>
    simp only [Element.stem, BulkFiles.relationStem, String.append_assoc]
    exact BulkFiles.isStem_of_checkLabel (Relation.valid_iff.1 h).2.2.1 _

/-! ## Writing the rows of an element -/

namespace BulkFiles

variable {b : BulkFiles} {directory stem : String} {columns : List String} {place : Place}

/-- How many files have been named after a text. -/
def numberOf (b : BulkFiles) (stem : String) : Nat := (b.output.counts.get? stem).getD 0

/-- The path of the next file that is named after a text. -/
def nextPath (b : BulkFiles) (directory stem : String) : String :=
  Path.join directory (fileName stem (b.numberOf stem))

/-- The output once the next file has its number. -/
def withNumber (b : BulkFiles) (stem : String) : BulkOutput :=
  { b.output with counts := b.output.counts.insert stem (b.numberOf stem + 1) }

theorem numberOf_withNumber {files : FileStore} {output : BulkOutput}
    (h : output.counts = (b.withNumber stem).counts) (other : String) :
    numberOf ⟨files, output⟩ other = if other = stem then b.numberOf stem + 1 else b.numberOf other := by
  rw [numberOf, h]
  split
  · rename_i he
    rw [he]
    exact congrArg (Option.getD · 0) (KeyMap.get?_insert_self _ _ _)
  · rename_i he
    exact congrArg (Option.getD · 0) (KeyMap.get?_insert_other _ _ he)

theorem writeRow_open {row : Row} (h : b.output.openFiles.lookup (stem, row.columns) = some place) :
    b.writeRow directory stem row =
      (.ok (), { b with files := b.files.append place (Csv.rowBytes row.cells) }) := by
  rw [writeRow, h]

theorem writeRow_closed {row : Row} (h : b.output.openFiles.lookup (stem, row.columns) = none) :
    b.writeRow directory stem row =
      match b.files.writable (b.nextPath directory stem) with
      | .error e => (.error (.csv (.io e)), { b with output := b.withNumber stem })
      | .ok place =>
        (.ok (), ⟨b.files.put place (.file (Csv.rowBytes row.columns ++ Csv.rowBytes row.cells)),
          { b.withNumber stem with openFiles := ((stem, row.columns), place) :: b.output.openFiles }⟩) := by
  rw [writeRow, h]
  rfl

/-- Rows of one kind go to the end of a file that has just been written. -/
theorem writeRows_put {s : FileStore} {output : BulkOutput} (given : place ≠ [])
    (h : output.openFiles.lookup (stem, columns) = some place) {rows : List Row}
    (same : ∀ row ∈ rows, row.columns = columns) (old : Bytes) :
    writeRows ⟨s.put place (.file old), output⟩ directory stem rows =
      (.ok (), ⟨s.put place (.file (old ++ rows.flatMap (Csv.rowBytes ·.cells))), output⟩) := by
  induction rows generalizing old with
  | nil => rw [List.flatMap_nil, List.append_nil]; rfl
  | cons row rows ih =>
    obtain ⟨rfl, same⟩ := List.forall_mem_cons.1 same
    rw [writeRows, writeRow_open h]
    dsimp only
    rw [FileStore.append_eq_put (FileStore.entry?_put_self s given _), FileStore.put_put, ih same,
      List.flatMap_cons, List.append_assoc]

theorem writeRows_open {rows : List Row} {old : Bytes}
    (h : b.output.openFiles.lookup (stem, columns) = some place)
    (stands : b.files.entry? place = some (.file old)) (some : rows ≠ [])
    (same : ∀ row ∈ rows, row.columns = columns) :
    b.writeRows directory stem rows =
      (.ok (),
        { b with files := b.files.put place (.file (old ++ rows.flatMap (Csv.rowBytes ·.cells))) }) := by
  obtain ⟨row, rows, rfl⟩ := List.exists_cons_of_ne_nil some
  obtain ⟨rfl, same⟩ := List.forall_mem_cons.1 same
  have given : place ≠ [] := by
    rintro rfl
    cases stands
  rw [writeRows, writeRow_open h]
  dsimp only
  rw [FileStore.append_eq_put stands, writeRows_put given h same, List.flatMap_cons, List.append_assoc]

theorem writeRows_unopened {rows : List Row} {e : FileError}
    (h : b.output.openFiles.lookup (stem, columns) = none)
    (failed : b.files.writable (b.nextPath directory stem) = .error e) (some : rows ≠ [])
    (same : ∀ row ∈ rows, row.columns = columns) :
    b.writeRows directory stem rows = (.error (.csv (.io e)), { b with output := b.withNumber stem }) := by
  obtain ⟨row, rows, rfl⟩ := List.exists_cons_of_ne_nil some
  obtain ⟨rfl, -⟩ := List.forall_mem_cons.1 same
  rw [writeRows, writeRow_closed h, failed]

theorem writeRows_created {rows : List Row} (h : b.output.openFiles.lookup (stem, columns) = none)
    (made : b.files.writable (b.nextPath directory stem) = .ok place) (some : rows ≠ [])
    (same : ∀ row ∈ rows, row.columns = columns) :
    b.writeRows directory stem rows =
      (.ok (), ⟨b.files.put place (.file (Csv.rowBytes columns ++ rows.flatMap (Csv.rowBytes ·.cells))),
        { b.withNumber stem with openFiles := ((stem, columns), place) :: b.output.openFiles }⟩) := by
  obtain ⟨row, rows, rfl⟩ := List.exists_cons_of_ne_nil some
  obtain ⟨rfl, same⟩ := List.forall_mem_cons.1 same
  have given : place ≠ [] := by
    rintro rfl
    exact (FileStore.resolve_of_writable made).2 rfl
  rw [writeRows, writeRow_closed h, made]
  dsimp only
  rw [writeRows_put given List.lookup_cons_self same, List.flatMap_cons, List.append_assoc]

end BulkFiles

/-! ## Writing an element -/

namespace Element

variable {c : BulkLoaderConfig} {b : BulkFiles} {x : Element} {place : Place}

/-- An element is checked, its rows are written, and it is counted. -/
theorem write_eq (c : BulkLoaderConfig) (b : BulkFiles) (x : Element) :
    x.write c b =
      match x.check with
      | .error e => (.error (.graph e), b)
      | .ok () =>
        match b.writeRows (x.directory c) x.stem (x.rows c.format) with
        | (.error e, b) => (.error e, b)
        | (.ok (), b) => (.ok (), { b with output := x.counted b.output }) := by
  cases x <;> rfl

theorem write_invalid {e : GraphError} (h : x.check = .error e) : x.write c b = (.error (.graph e), b) := by
  rw [write_eq, h]

theorem write_open {old : Bytes} (valid : x.Valid)
    (h : b.output.openFiles.lookup (x.key c.format) = some place)
    (stands : b.files.entry? place = some (.file old)) :
    x.write c b =
      (.ok (), ⟨b.files.put place (.file (old ++ x.content c.format)), x.counted b.output⟩) := by
  rw [write_eq, valid, BulkFiles.writeRows_open h stands (x.rows_ne_nil _) fun _ => columns_of_mem_rows]
  rfl

theorem write_unopened {e : FileError} (valid : x.Valid)
    (h : b.output.openFiles.lookup (x.key c.format) = none)
    (failed : b.files.writable (b.nextPath (x.directory c) x.stem) = .error e) :
    x.write c b = (.error (.csv (.io e)), { b with output := b.withNumber x.stem }) := by
  rw [write_eq, valid, BulkFiles.writeRows_unopened h failed (x.rows_ne_nil _) fun _ => columns_of_mem_rows]

theorem write_created (valid : x.Valid) (h : b.output.openFiles.lookup (x.key c.format) = none)
    (made : b.files.writable (b.nextPath (x.directory c) x.stem) = .ok place) :
    x.write c b =
      (.ok (), ⟨b.files.put place (.file (Csv.rowBytes (x.columns c.format) ++ x.content c.format)),
        x.counted { b.withNumber x.stem with
          openFiles := (x.key c.format, place) :: b.output.openFiles }⟩) := by
  rw [write_eq, valid, BulkFiles.writeRows_created h made (x.rows_ne_nil _) fun _ => columns_of_mem_rows]
  rfl

end Element

/-! ## Writing a model -/

namespace BulkFiles

theorem writeAll_append {α : Type} (write : BulkFiles → α → Except LoadError Unit × BulkFiles)
    (b : BulkFiles) (xs ys : List α) :
    b.writeAll write (xs ++ ys) =
      match b.writeAll write xs with
      | (.error e, b) => (.error e, b)
      | (.ok (), b) => b.writeAll write ys := by
  induction xs generalizing b with
  | nil => rfl
  | cons x xs ih =>
    rw [List.cons_append, writeAll, writeAll]
    split
    · exact ih _
    · rfl

theorem writeAll_map {α β : Type} (write : BulkFiles → β → Except LoadError Unit × BulkFiles) (f : α → β)
    (b : BulkFiles) (xs : List α) :
    b.writeAll write (xs.map f) = b.writeAll (fun b x => write b (f x)) xs := by
  induction xs generalizing b with
  | nil => rfl
  | cons x xs ih =>
    rw [List.map_cons, writeAll, writeAll]
    split
    · exact ih _
    · rfl

/-- A model is written element by element, as it hands them out. -/
theorem writeModel_eq (c : BulkLoaderConfig) (b : BulkFiles) (m : Model) :
    b.writeModel c m = b.writeAll (fun b x => x.write c b) m.pulled := by
  simp only [Model.pulled, writeAll_append, writeAll_map]
  rfl

/-- Rows only fail because of their file. -/
theorem writeRows_error {b b' : BulkFiles} {directory stem : String} {rows : List Row} {e : LoadError}
    (h : b.writeRows directory stem rows = (.error e, b')) : ∃ fault, e = .csv fault := by
  induction rows generalizing b with
  | nil => cases h
  | cons row rows ih =>
    rw [writeRows] at h
    split at h
    · exact ih h
    · rename_i hr
      cases h
      cases hl : b.output.openFiles.lookup (stem, row.columns) with
      | some place =>
        rw [writeRow_open hl] at hr
        cases hr
      | none =>
        rw [writeRow_closed hl] at hr
        split at hr
        · cases hr
          exact ⟨_, rfl⟩
        · cases hr

end BulkFiles

/-- An element that passes its checks is not refused as a part of a graph. -/
theorem Element.write_ne_graph {c : BulkLoaderConfig} {x : Element} (valid : x.Valid) (b : BulkFiles)
    (e : GraphError) : (x.write c b).1 ≠ .error (.graph e) := by
  rw [Element.write_eq, valid]
  dsimp only
  split
  · rename_i hr
    obtain ⟨fault, rfl⟩ := BulkFiles.writeRows_error hr
    simp
  · simp

theorem BulkFiles.writeAll_ne_graph {c : BulkLoaderConfig} {b : BulkFiles} {xs : List Element}
    (valid : ∀ x ∈ xs, x.Valid) (e : GraphError) :
    (b.writeAll (fun b x => x.write c b) xs).1 ≠ .error (.graph e) := by
  induction xs generalizing b with
  | nil => simp [writeAll]
  | cons x xs ih =>
    obtain ⟨first, valid⟩ := List.forall_mem_cons.1 valid
    rw [writeAll]
    split
    · exact ih valid
    · rename_i hx
      have refused := Element.write_ne_graph (c := c) first b e
      rwa [hx] at refused

end MetaGraph

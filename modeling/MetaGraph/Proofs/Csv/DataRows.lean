/-
What the source of a CSV file gives, row by row. It gives one answer for each
row behind the header, in their order: the record of the row, or what the
model makes of that record, or a fault of the row alone if it has not as many
cells as the header or is no text. No fault keeps it from the rows behind,
and after the last row it is exhausted for good.
-/
import MetaGraph.Component.CsvExtractor
import MetaGraph.Proofs.Csv.Table
import MetaGraph.Proofs.KeyMap

namespace MetaGraph

variable {σ ν : Type}

/-- What comes of asking a working source so many times. -/
def Extract.answers (x : Extract σ) : Nat → σ → List Extracted × σ
  | 0, s => ([], s)
  | n + 1, s =>
    let (answer, s) := x s
    let (answers, s) := Extract.answers x n s
    (answer :: answers, s)

namespace CsvExtractor

/-! ## The record of a row -/

/-- A record holds for each name of a header the cell of a row that stands in the last column of
that name, and nothing else. -/
structure Binds (header row : List String) (r : Record) : Prop where
  last : ∀ (i : Nat) (name cell : String), header[i]? = some name → row[i]? = some cell →
    (∀ j, i < j → header[j]? ≠ some name) → r.get? name = some (.text cell)
  only : ∀ name ∉ header, r.get? name = none
  sorted : r.Sorted

theorem lookup_reverse_of_last {entries : List (String × Json)} {i : Nat} {name : String} {value : Json}
    (hi : entries[i]? = some (name, value)) (last : ∀ j, i < j → ∀ e ∈ entries[j]?, e.1 ≠ name) :
    entries.reverse.lookup name = some value := by
  obtain ⟨lt, here⟩ := List.getElem?_eq_some_iff.1 hi
  have later : (entries.drop (i + 1)).reverse.lookup name = none := by
    rw [List.lookup_eq_none_iff]
    intro e he
    obtain ⟨j, hj⟩ := List.mem_iff_getElem?.1 (List.mem_reverse.1 he)
    rw [List.getElem?_drop] at hj
    exact bne_iff_ne.2 (last (i + 1 + j) (by omega) e hj).symm
  have whole : entries = entries.take i ++ (name, value) :: entries.drop (i + 1) := by
    rw [← here, List.getElem_cons_drop, List.take_append_drop]
  rw [whole, List.reverse_append, List.reverse_cons, List.append_assoc, List.lookup_append, later]
  simp

/-- The cells of a row, by the names of their columns. -/
def named (header row : List String) : List (String × Json) :=
  (header.zip row).map fun x => (x.1, .text x.2)

theorem record_eq (header row : List String) : record header row = KeyMap.extend [] (named header row) := rfl

theorem binds_record (header row : List String) : Binds header row (record header row) where
  last i name cell hn hc last := by
    have hi : (named header row)[i]? = some (name, .text cell) := by
      have zipped : (header.zip row)[i]? = some (name, cell) := List.getElem?_zip_eq_some.2 ⟨hn, hc⟩
      rw [named, List.getElem?_map, zipped]
      rfl
    rw [record_eq, KeyMap.get?_extend, lookup_reverse_of_last hi]
    · rfl
    · rintro j hj _ he rfl
      obtain ⟨⟨_, _⟩, hz, rfl⟩ := Option.map_eq_some_iff.1 (List.getElem?_map .. ▸ he)
      exact last j hj (List.getElem?_zip_eq_some.1 hz).1
  only name h := by
    refine KeyMap.get?_eq_none_of_notMem fun hm => h ?_
    rw [record_eq, KeyMap.mem_keys_extend, named, List.map_map] at hm
    obtain ⟨⟨_, _⟩, hz, rfl⟩ := List.mem_map.1 (hm.resolve_left List.not_mem_nil)
    exact (List.of_mem_zip hz).1
  sorted := KeyMap.sorted_extend List.Pairwise.nil _

/-! ## What comes of a row -/

/-- What comes of a record: itself, or what its model is built to. -/
def bound (kind : Option ModelKind) (r : Record) (claims : Claims) : Extracted × Claims :=
  match kind with
  | none => (.payload (.record r), claims)
  | some kind =>
    match kind.build r claims with
    | .ok (m, claims) => (.payload (.model m), claims)
    | .error e => (.failed (.model e), claims)

/-- What the source gives for a row of cells, and the claims of the run after it. -/
inductive RowOutcome (kind : Option ModelKind) (header : List String) (number : Nat) (cells : List Bytes)
    (claims : Claims) : Extracted → Claims → Prop
  | bound {row : List String} {r : Record} (wide : cells.length = header.length)
    (text : row.map Utf8.encode = cells) (binds : Binds header row r) :
    RowOutcome kind header number cells claims (bound kind r claims).1 (bound kind r claims).2
  | malformed (bad : cells.length ≠ header.length ∨ ∃ cell ∈ cells, ∀ s, Utf8.encode s ≠ cell) (message : String) :
    RowOutcome kind header number cells claims (.failed (.record s!"row {number}: {message}")) claims

/-- What the source gives for rows, one after the other; so many were read before. -/
inductive Outcomes (kind : Option ModelKind) (header : List String) :
    Nat → List (List Bytes) → Claims → List Extracted → Claims → Prop
  | nil {before : Nat} {claims : Claims} : Outcomes kind header before [] claims [] claims
  | cons {before : Nat} {cells : List Bytes} {rows : List (List Bytes)} {claims claims' claims'' : Claims}
    {answer : Extracted} {answers : List Extracted}
    (here : RowOutcome kind header (before + 1) cells claims answer claims')
    (others : Outcomes kind header (before + 1) rows claims' answers claims'') :
    Outcomes kind header before (cells :: rows) claims (answer :: answers) claims''

variable (scope : String) (kind : Option ModelKind) {reader : Csv.Reader} {header : List String} {count : Nat}

theorem extract_row {s : RunState ν} {cells : List Bytes} {rows : List (List Bytes)}
    (hs : s.source = .rows reader header count) (hw : reader.width = some header.length)
    (hr : Csv.rawRows reader.rest = cells :: rows) :
    ∃ answer claims reader', extract scope kind s =
        (answer, { s with source := .rows reader' header (count + 1), claims }) ∧
      RowOutcome kind header (count + 1) cells s.claims answer claims ∧
      reader'.width = some header.length ∧ Csv.rawRows reader'.rest = rows := by
  obtain ⟨result, reader', hn, read, rest, width⟩ := Csv.Reader.next_of_rawRows_cons hr
  rw [hw, Option.getD_some] at width
  rw [hw] at read
  rw [extract, hs]
  simp only [hn]
  cases read with
  | @row row wide text =>
    have outcome : RowOutcome kind header (count + 1) cells s.claims _ _ :=
      .bound (wide _ rfl) text (binds_record header row)
    refine ⟨_, _, reader', ?_, outcome, width, rest⟩
    cases kind with
    | none => rfl
    | some kind =>
      simp only [RunState.bind, bound]
      rcases kind.build (record header row) s.claims with e | ⟨m, claims⟩ <;> rfl
  | @fault e bad own =>
    have bad' : cells.length ≠ header.length ∨ ∃ cell ∈ cells, ∀ s, Utf8.encode s ≠ cell := by
      refine bad.imp_left ?_
      rintro ⟨_, hw, other⟩
      exact Option.some.inj hw ▸ other
    refine ⟨_, s.claims, reader', ?_, .malformed bad' e.message, width, rest⟩
    cases e with
    | io io => exact absurd rfl (own io)
    | _ => rfl

/-- Nothing comes once the rows are through. -/
theorem extract_end {s : RunState ν} (hs : s.source = .rows reader header count) (hr : Csv.rawRows reader.rest = []) :
    extract scope kind s = (.finished, { s with source := .closed }) := by
  obtain ⟨reader', hn⟩ := Csv.Reader.next_of_rawRows_nil hr
  rw [extract, hs]
  simp only [hn]

theorem answers_closed {s : RunState ν} (hs : s.source = .closed) (k : Nat) :
    (extract scope kind).answers k s = (List.replicate k .finished, s) := by
  induction k with
  | zero => rfl
  | succ k ih =>
    have here : extract scope kind s = (.finished, s) := by rw [extract, hs]
    simp only [Extract.answers, here, ih, List.replicate_succ]

/-- Row by row, and nothing after the last one. -/
theorem answers_rows {rows : List (List Bytes)} : ∀ {s : RunState ν} {reader : Csv.Reader} {count : Nat},
    s.source = .rows reader header count → (rows ≠ [] → reader.width = some header.length) →
    Csv.rawRows reader.rest = rows →
    ∃ outcomes claims, Outcomes kind header count rows s.claims outcomes claims ∧
      ∀ k, ∃ s', (extract scope kind).answers (rows.length + k) s = (outcomes ++ List.replicate k .finished, s') ∧
        s'.claims = claims ∧ s'.files = s.files := by
  induction rows with
  | nil =>
    intro s reader count hs _ hr
    refine ⟨[], s.claims, .nil, fun k => ?_⟩
    cases k with
    | zero => exact ⟨s, rfl, rfl, rfl⟩
    | succ k =>
      refine ⟨{ s with source := .closed }, ?_, rfl, rfl⟩
      have after := answers_closed scope kind (s := { s with source := .closed }) rfl k
      rw [List.length_nil, Nat.zero_add, Extract.answers, extract_end scope kind hs hr]
      simp only [after, List.replicate_succ, List.nil_append]
  | cons cells rows ih =>
    intro s reader count hs hw hr
    obtain ⟨answer, claims, reader', given, outcome, width, rest⟩ :=
      extract_row scope kind hs (hw (List.cons_ne_nil _ _)) hr
    obtain ⟨outcomes, claims', others, answers⟩ :=
      ih (s := { s with source := .rows reader' header (count + 1), claims }) rfl (fun _ => width) rest
    refine ⟨answer :: outcomes, claims', .cons outcome others, fun k => ?_⟩
    obtain ⟨s', more, kept⟩ := answers k
    refine ⟨s', ?_, kept⟩
    rw [List.length_cons, Nat.add_right_comm]
    simp only [Extract.answers, given, more, List.cons_append]

/-! ## A file as a source -/

/-- The reader of a file behind its header, and the header. -/
theorem header_ofBytes {content : Bytes} {rows : List (List Bytes)}
    (ht : Csv.table content = header.map Utf8.encode :: rows) :
    ∃ reader, (Csv.Reader.ofBytes content).header = (.ok header, reader) ∧
      reader.width = some header.length ∧ Csv.rawRows reader.rest = rows := by
  have fresh : (Csv.Reader.ofBytes content).width = none := by
    unfold Csv.Reader.ofBytes
    split <;> rfl
  obtain ⟨result, reader, hn, read, rest, width⟩ := Csv.Reader.next_of_rawRows_cons ht
  rw [fresh, Option.getD_none, List.length_map] at width
  rw [fresh] at read
  refine ⟨reader, ?_, width, rest⟩
  rw [Csv.Reader.header, hn]
  cases read with
  | row wide text =>
    obtain rfl := List.map_injective_iff.2 Utf8.encode_injective text
    rfl
  | fault bad own =>
    obtain ⟨_, ⟨⟩, _⟩ | ⟨cell, hm, garbled⟩ := bad
    obtain ⟨name, -, same⟩ := List.mem_map.1 hm
    exact absurd same (garbled name)

end CsvExtractor

/-- A file with a header is set up as a source of its rows, whatever they are. Asked so many times
as there are rows, the source has given the outcome of each, in their order; asked any more,
it gives nothing. -/
theorem csvExtractor_rows {scope : Scope} {ctx : RunContext} {s : RunState ν} {c : CsvExtractorConfig}
    {place : Place} {content : Bytes} {header : List String} {rows : List (List Bytes)} {kind : Option ModelKind}
    (hc : scope.extract CsvExtractorConfig.settings = .ok c) (located : c.fileLocation ≠ "")
    (hf : s.files.find c.fileLocation = .ok (place, .file content))
    (ht : Csv.table content = header.map Utf8.encode :: rows)
    (hk : CsvExtractor.modelKind ctx.registry c.modelClass = .ok kind) :
    ∃ extract s₁, csvExtractor.setUp scope ctx s = (.ok extract, s₁) ∧
      ∃ outcomes claims, CsvExtractor.Outcomes kind header 0 rows s.claims outcomes claims ∧
        ∀ k, ∃ s', extract.answers (rows.length + k) s₁ = (outcomes ++ List.replicate k .finished, s') ∧
          s'.claims = claims ∧ s'.files = s.files := by
  obtain ⟨reader, hh, width, rest⟩ := CsvExtractor.header_ofBytes ht
  have opened : CsvExtractor.openFile s.files scope.name c.fileLocation = .ok (.rows reader header 0) := by
    rw [CsvExtractor.openFile, hf]
    simp only [hh]
  have prepared : CsvExtractor.prepare scope ctx s.files = .ok (.rows reader header 0, kind) := by
    rw [CsvExtractor.prepare, hc]
    simp only [bind, Except.bind, if_neg located, opened, hk]
    rfl
  refine ⟨CsvExtractor.extract CsvExtractor.scopeName kind, { s with source := .rows reader header 0 }, ?_,
    CsvExtractor.answers_rows _ kind (s := { s with source := .rows reader header 0 }) rfl (fun _ => width) rest⟩
  simp only [csvExtractor, prepared]

namespace CsvExtractor

/-- The columns of watermarks. -/
def mixedHeader : List String := ["create_time", "database", "schema", "table_name", "part_name"]

/-- A watermark, one of no partition, a row that is too short, one that is no text, and another
watermark. -/
def mixedRows : List (List Bytes) :=
  [["2020", "hive", "core", "events", "ds=2020-01-01"].map Utf8.encode,
    ["2020", "hive", "core", "events", "no_partition"].map Utf8.encode,
    ["2020", "hive"].map Utf8.encode,
    [[0xFF], [], [], [], []],
    ["2020", "hive", "core", "users", "ds=2020-01-02"].map Utf8.encode]

def mixedFile : Bytes := (mixedHeader.map Utf8.encode :: mixedRows).flatMap Csv.quotedRow

def mixedScope : Scope where
  config := { tree := .ok [("extractor", .table [("csv", .table
    [("file_location", .text "/rows.csv"), ("model_class", .text "watermark")])])] }
  name := "extractor.csv"

theorem csvExtractor_rows_mixed :
    ∃ extract s₁, csvExtractor.setUp mixedScope { runId := "1" }
        { files := { entries := [(["rows.csv"], .file mixedFile)] }, network := () } = (.ok extract, s₁) ∧
      ∃ outcomes claims s', Outcomes (some .watermark) mixedHeader 0 mixedRows {} outcomes claims ∧
        extract.answers 7 s₁ = (outcomes ++ [.finished, .finished], s') := by
  have table : Csv.table mixedFile = mixedHeader.map Utf8.encode :: mixedRows := Csv.table_quoted (by decide)
  have settings : mixedScope.extract CsvExtractorConfig.settings = .ok ⟨"/rows.csv", some "watermark"⟩ :=
    except_eq_ok_of_toOption rfl
  have named : modelKind ({ runId := "1" } : RunContext).registry (some "watermark") = .ok (some .watermark) :=
    except_eq_ok_of_toOption (by decide +kernel)
  obtain ⟨extract, s₁, setUp, outcomes, claims, each, answers⟩ :=
    csvExtractor_rows (s := { files := { entries := [(["rows.csv"], .file mixedFile)] }, network := () })
      settings (by decide) rfl table named
  obtain ⟨s', given, -⟩ := answers 2
  exact ⟨extract, s₁, setUp, outcomes, claims, s', each, given⟩

end CsvExtractor

end MetaGraph

/-
The table of a file: its rows as their bytes are divided into cells, whatever
their number and whether they are text or not. A reader goes through the
table row by row. What it makes of a row it tells of that row alone, and it
goes on behind it in any case. Every table of rows that have cells is that
of a file, so rows of all kinds may follow each other.
-/
import MetaGraph.Proofs.Csv.RoundTrip
import MetaGraph.Proofs.Except

namespace MetaGraph.Csv

/-! ## Rows of cells -/

/-- The bytes behind a field. -/
def Stop.rest : Stop → Bytes
  | field rest | row rest => rest
  | file => []

theorem length_bareField (bs : Bytes) : (bareField bs).2.rest.length ≤ bs.length - 1 := by
  induction bs with
  | nil => exact Nat.le_refl _
  | cons b bs ih =>
    rw [bareField]
    split
    · exact Nat.le_refl _
    · split
      · exact Nat.le_refl _
      · simp only [List.length_cons]
        omega

theorem length_quotedField (bs : Bytes) : (quotedField bs).2.rest.length ≤ bs.length - 1 := by
  fun_induction quotedField bs with
  | case1 => exact Nat.le_refl _
  | case2 => exact Nat.le_refl _
  | case3 => exact Nat.le_refl _
  | case4 bs field stop whole ih =>
    rw [whole] at ih
    simp only [List.length_cons]
    exact Nat.le_trans ih (by omega)
  | case5 c bs =>
    have := length_bareField (c :: bs)
    simp only [List.length_cons] at this ⊢
    omega
  | case6 b c bs plain field stop whole ih =>
    rw [whole] at ih
    simp only [List.length_cons] at ih ⊢
    omega

theorem length_anyField (bs : Bytes) : (anyField bs).2.rest.length ≤ bs.length - 1 := by
  cases bs with
  | nil => exact Nat.le_refl _
  | cons b bs =>
    rw [anyField]
    split
    · have := length_quotedField bs
      simp only [List.length_cons]
      omega
    · exact length_bareField (b :: bs)

theorem length_fieldsOf_le (fuel : Nat) (bs : Bytes) : (fieldsOf fuel bs).2.length ≤ bs.length := by
  induction fuel generalizing bs with
  | zero => exact Nat.le_refl _
  | succ fuel ih =>
    have shorter := length_anyField bs
    rw [fieldsOf]
    rcases hf : anyField bs with ⟨field, rest | rest | _⟩ <;> rw [hf] at shorter <;> simp only [Stop.rest] at shorter ⊢
    · have := ih rest
      omega
    · omega
    · exact Nat.zero_le _

/-- Behind a row there are fewer bytes. -/
theorem length_fieldsOf (fuel : Nat) {bs : Bytes} (h : bs ≠ []) : (fieldsOf (fuel + 1) bs).2.length < bs.length := by
  have some := List.length_pos_iff.2 h
  have shorter := length_anyField bs
  rw [fieldsOf]
  rcases hf : anyField bs with ⟨field, rest | rest | _⟩ <;> rw [hf] at shorter <;> simp only [Stop.rest] at shorter ⊢
  · have := length_fieldsOf_le fuel rest
    omega
  · omega
  · exact some

/-- The cells of the first row of some bytes, and the bytes behind it. -/
def firstRow (body : Bytes) : List Bytes × Bytes := fieldsOf (body.length + 1) body

/-- All rows of some bytes, each as its cells. There are no more rows than bytes. -/
def rawRows (bs : Bytes) : List (List Bytes) :=
  go (bs.length + 1) bs
where
  go : Nat → Bytes → List (List Bytes)
    | 0, _ => []
    | fuel + 1, bs =>
      let body := bs.dropWhile isLineEnd
      if body = [] then []
      else (firstRow body).1 :: go fuel (firstRow body).2

theorem length_behind {bs : Bytes} (h : bs.dropWhile isLineEnd ≠ []) :
    (firstRow (bs.dropWhile isLineEnd)).2.length < bs.length :=
  Nat.lt_of_lt_of_le (length_fieldsOf _ h) (List.dropWhile_suffix _).length_le

theorem go_eq_go : ∀ {fuel fuel' : Nat} {bs : Bytes}, bs.length < fuel → bs.length < fuel' →
    rawRows.go fuel bs = rawRows.go fuel' bs
  | 0, _, _, h, _ | _, 0, _, _, h => by omega
  | fuel + 1, fuel' + 1, bs, h, h' => by
    rw [rawRows.go, rawRows.go]
    split
    · rfl
    · rename_i rows
      have := length_behind rows
      exact congrArg (_ :: ·) (go_eq_go (by omega) (by omega))

/-- The first row, and then the rows behind it. -/
theorem rawRows_eq (bs : Bytes) : rawRows bs =
    if bs.dropWhile isLineEnd = [] then []
    else (firstRow (bs.dropWhile isLineEnd)).1 :: rawRows (firstRow (bs.dropWhile isLineEnd)).2 := by
  rw [rawRows, rawRows.go]
  split
  · rfl
  · rename_i rows
    rw [rawRows, go_eq_go (length_behind rows) (Nat.lt_succ_self _)]

/-! ## What is made of a row -/

/-- The rows of a file, its header among them. A byte order mark is no part of them. -/
def table (content : Bytes) : List (List Bytes) := rawRows (Reader.ofBytes content).rest

namespace Reader

/-- A row is text if all of its cells are the bytes of one. -/
theorem texts_ok_iff {start : Position} {i : Nat} {cells : List Bytes} {row : List String} :
    texts start i cells = .ok row ↔ row.map Utf8.encode = cells := by
  constructor
  · intro h
    induction cells generalizing i row with
    | nil =>
      cases h
      rfl
    | cons cell cells ih =>
      rw [texts] at h
      split at h
      · cases h
      · rename_i s hd
        obtain ⟨others, ho, rfl⟩ := except_map_ok.1 h
        rw [List.map_cons, Utf8.decode_eq_ok_iff.1 hd, ih ho]
  · rintro rfl
    exact texts_map_encode start row i

theorem texts_error {start : Position} {i : Nat} {cells : List Bytes} {e : CsvError}
    (h : texts start i cells = .error e) :
    (∃ cell ∈ cells, ∀ s, Utf8.encode s ≠ cell) ∧ ∃ field valid, e = .notText start field valid := by
  induction cells generalizing i with
  | nil => cases h
  | cons cell cells ih =>
    rw [texts] at h
    split at h
    · rename_i valid hd
      cases h
      refine ⟨⟨cell, List.mem_cons_self, fun s hs => ?_⟩, _, _, rfl⟩
      rw [Utf8.decode_eq_ok_iff.2 hs] at hd
      cases hd
    · cases ho : texts start (i + 1) cells with
      | ok others => rw [ho] at h; cases h
      | error e' =>
        rw [ho] at h
        cases h
        obtain ⟨⟨cell', hm, garbled⟩, told⟩ := ih ho
        exact ⟨⟨cell', List.mem_cons_of_mem _ hm, garbled⟩, told⟩

/-- What is made of a row of cells: its texts, or a fault of it alone. -/
inductive RowRead (width : Option Nat) (cells : List Bytes) : Except CsvError (Option (List String)) → Prop
  | row {row : List String} (wide : ∀ w ∈ width, cells.length = w) (text : row.map Utf8.encode = cells) :
    RowRead width cells (.ok (some row))
  | fault {e : CsvError} (bad : (∃ w ∈ width, cells.length ≠ w) ∨ ∃ cell ∈ cells, ∀ s, Utf8.encode s ≠ cell)
    (own : ∀ io, e ≠ .io io) : RowRead width cells (.error e)

theorem rowRead_texts {width : Option Nat} {cells : List Bytes} (wide : ∀ w ∈ width, cells.length = w)
    (start : Position) : RowRead width cells ((texts start 0 cells).map some) := by
  cases ht : texts start 0 cells with
  | ok row => exact .row wide (texts_ok_iff.1 ht)
  | error e =>
    obtain ⟨garbled, _, _, rfl⟩ := texts_error ht
    exact .fault (.inr garbled) nofun

/-- A reader ends at the end of its table. -/
theorem next_of_rawRows_nil {r : Reader} (h : rawRows r.rest = []) : ∃ r', r.next = (.ok none, r') := by
  rw [rawRows_eq] at h
  split at h
  · rename_i none
    rw [next]
    exact ⟨_, if_pos none⟩
  · cases h

/-- A reader takes the next row of its table and goes on behind it, whatever it makes of it. -/
theorem next_of_rawRows_cons {r : Reader} {cells : List Bytes} {rows : List (List Bytes)}
    (h : rawRows r.rest = cells :: rows) :
    ∃ result r', r.next = (result, r') ∧ RowRead r.width cells result ∧ rawRows r'.rest = rows ∧
      r'.width = some (r.width.getD cells.length) := by
  rw [rawRows_eq] at h
  split at h
  · cases h
  rename_i some
  obtain ⟨rfl, rfl⟩ := List.cons.inj h
  rw [next]
  simp only [if_neg some]
  refine ⟨_, _, rfl, ?_, rfl, rfl⟩
  cases hw : r.width with
  | none => exact rowRead_texts (by simp) _
  | some w =>
    dsimp only
    split
    · rename_i wide
      exact rowRead_texts (by rintro _ ⟨⟩; exact wide) _
    · rename_i other
      refine .fault (.inl ⟨w, rfl, other⟩) ?_
      rintro io ⟨⟩

end Reader

/-! ## Every table is that of a file -/

/-- A row with all of its cells between quotes. -/
def quotedRow (cells : List Bytes) : Bytes := joinFields (cells.map inQuotes) ++ [lineFeed]

theorem readAs_inQuotes (cell : Bytes) : ReadAs (inQuotes cell) cell := by
  intro separator stop hs rest
  rw [inQuotes, List.append_assoc, List.append_assoc]
  exact quotedField_append hs cell rest

theorem firstRow_quotedRow {cells : List Bytes} (h : cells ≠ []) (rest : Bytes) :
    firstRow (quotedRow cells ++ rest) = (cells, rest) := by
  have read : List.Forall₂ ReadAs (cells.map inQuotes) cells := by
    rw [List.forall₂_map_left_iff, List.forall₂_same]
    exact fun cell _ => readAs_inQuotes cell
  have enough : (cells.map inQuotes).length ≤ (quotedRow cells ++ rest).length + 1 := by
    have : (cells.map inQuotes).length ≤ _ := length_le_joinFields (by simp [inQuotes])
    rw [quotedRow, List.length_append, List.length_append]
    omega
  rw [firstRow]
  nth_rewrite 2 [quotedRow]
  rw [List.append_assoc]
  exact fieldsOf_joinFields read (by simpa using h) enough rest

theorem quotedRow_eq_cons {cells : List Bytes} (h : cells ≠ []) : ∃ bs, quotedRow cells = quote :: bs := by
  match cells, h with
  | [cell], _ => exact ⟨_, rfl⟩
  | cell :: cell' :: cells, _ => exact ⟨_, rfl⟩

theorem rawRows_quoted {rows : List (List Bytes)} (h : ∀ cells ∈ rows, cells ≠ []) :
    rawRows (rows.flatMap quotedRow) = rows := by
  induction rows with
  | nil => rfl
  | cons cells rows ih =>
    obtain ⟨here, others⟩ := List.forall_mem_cons.1 h
    obtain ⟨bs, start⟩ := quotedRow_eq_cons here
    have body : (quotedRow cells ++ rows.flatMap quotedRow).dropWhile isLineEnd =
        quotedRow cells ++ rows.flatMap quotedRow := by
      rw [start]
      rfl
    rw [List.flatMap_cons, rawRows_eq, body, firstRow_quotedRow here, ih others, if_neg (by simp [start])]

/-- Whatever the cells, their rows are those of the file in which they stand between quotes. -/
theorem table_quoted {rows : List (List Bytes)} (h : ∀ cells ∈ rows, cells ≠ []) :
    table (rows.flatMap quotedRow) = rows := by
  have unmarked : (Reader.ofBytes (rows.flatMap quotedRow)).rest = rows.flatMap quotedRow := by
    cases rows with
    | nil => rfl
    | cons cells rows =>
      obtain ⟨bs, start⟩ := quotedRow_eq_cons (h cells List.mem_cons_self)
      rw [List.flatMap_cons, start]
      rfl
  rw [table, unmarked, rawRows_quoted h]

end MetaGraph.Csv

/-
Rows are as wide as the header. The first row of a file says how many fields
every later one has, and the reading of rows ends at one that has another
number of them.
-/
import MetaGraph.Proofs.Csv.RoundTrip
import MetaGraph.Proofs.Except

namespace MetaGraph.Csv.Reader

theorem length_texts {start : Position} {i : Nat} {fields : List Bytes} {row : List String}
    (h : texts start i fields = .ok row) : row.length = fields.length := by
  induction fields generalizing i row with
  | nil =>
    cases h
    rfl
  | cons field fields ih =>
    rw [texts] at h
    split at h
    · cases h
    · obtain ⟨rest, hr, rfl⟩ := except_map_ok.1 h
      rw [List.length_cons, List.length_cons, ih hr]

/-- A row that is read is as wide as the first one, which is itself if it comes first. -/
theorem next_some {r r' : Reader} {row : List String} (h : r.next = (.ok (some row), r')) :
    (∀ w ∈ r.width, row.length = w) ∧ r'.width = some row.length := by
  unfold next at h
  dsimp only at h
  split at h
  · cases h
  obtain ⟨read, rfl⟩ := Prod.mk.inj h
  cases hw : r.width with
  | none =>
    rw [hw] at read
    obtain ⟨fields, ht, he⟩ := except_map_ok.1 read
    cases he
    exact ⟨by simp, congrArg some (length_texts ht).symm⟩
  | some w =>
    rw [hw] at read
    dsimp only at read
    split at read
    · rename_i wide
      obtain ⟨fields, ht, he⟩ := except_map_ok.1 read
      cases he
      have same := (length_texts ht).trans wide
      exact ⟨by simpa using same, congrArg some same.symm⟩
    · cases read

/-- Nothing is left after the last row. -/
theorem next_none {r r' : Reader} (h : r.next = (.ok none, r')) : r'.rest = [] := by
  unfold next at h
  dsimp only at h
  split at h
  · cases h
    rfl
  have some {e : Except CsvError (List String)} : e.map Option.some ≠ .ok none := by
    cases e <;> exact nofun
  have read := (Prod.mk.inj h).1
  split at read
  · split at read
    · exact absurd read some
    · cases read
  · exact absurd read some

theorem length_go {fuel w : Nat} {r : Reader} (hw : r.width = some w) :
    ∀ row ∈ (rows.go fuel r).1, row.length = w := by
  induction fuel generalizing r with
  | zero => simp [rows.go]
  | succ fuel ih =>
    rw [rows.go]
    split
    · simp
    · simp
    · rename_i row r' hn
      obtain ⟨wide, hw'⟩ := next_some hn
      have here := wide w hw
      exact List.forall_mem_cons.2 ⟨here, ih (hw'.trans (congrArg some here))⟩

/-- All rows of a file are as wide as its header. -/
theorem length_rows {content : Bytes} {header : List String} {r : Reader}
    (h : (ofBytes content).header = (.ok header, r)) : ∀ row ∈ r.rows.1, row.length = header.length := by
  obtain ⟨first, left⟩ : (ofBytes content).next.1.map (·.getD []) = .ok header ∧ (ofBytes content).next.2 = r :=
    Prod.mk.inj h
  obtain ⟨read, hr, rfl⟩ := except_map_ok.1 first
  cases read with
  | some row => exact length_go (next_some (Prod.ext hr left)).2
  | none =>
    -- The file is empty, so no row comes after the header.
    rw [rows, rows.go, next_nil (next_none (Prod.ext hr left))]
    exact fun _ h => absurd h List.not_mem_nil

end MetaGraph.Csv.Reader

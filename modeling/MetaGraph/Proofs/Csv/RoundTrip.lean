/-
CSV files read back as they were written. A written field ends where the
reader ends it, so a row is read as its fields, and a file of a header and
rows of the same width as that header and those rows, without a fault.
-/
import Mathlib.Data.List.Forall2
import MetaGraph.Proofs.Csv.Numeric
import MetaGraph.Proofs.Text.Utf8

namespace MetaGraph.Csv

/-! ## Fields -/

/-- A byte that a field without quotes may hold. -/
def IsPlain (b : UInt8) : Prop := b ≠ comma ∧ b ≠ quote ∧ isLineEnd b = false ∧ b ≠ 0xEF

theorem toNat_of_isNumericChar {c : Char} (h : Decimal.isNumericChar c = true) :
    43 ≤ c.toNat ∧ c.toNat ≠ 44 ∧ c.toNat ≤ 122 := by
  delta Decimal.isNumericChar Char.isAlphanum Char.isAlpha Char.isUpper Char.isLower Char.isDigit at h
  simp only [Bool.or_eq_true, Bool.and_eq_true, decide_eq_true_eq, beq_iff_eq, UInt32.le_iff_toNat_le,
    ge_iff_le] at h
  change (((((65 ≤ c.toNat ∧ c.toNat ≤ 90) ∨ (97 ≤ c.toNat ∧ c.toNat ≤ 122)) ∨
    (48 ≤ c.toNat ∧ c.toNat ≤ 57)) ∨ c = '+') ∨ c = '-') ∨ c = '.' at h
  rcases h with ((h | rfl) | rfl) | rfl
  · omega
  all_goals decide

theorem isPlain_of_isNumericChar {c : Char} (h : Decimal.isNumericChar c = true) :
    ∃ b, String.utf8EncodeChar c = [b] ∧ IsPlain b := by
  have hn := toNat_of_isNumericChar h
  refine ⟨UInt8.ofNat c.toNat, ?_, ?_⟩
  · rw [String.utf8EncodeChar]
    exact if_pos (by change c.toNat ≤ _; omega)
  · have hb := Utf8.toNat_ofNat (n := c.toNat) (by omega)
    simp only [IsPlain, isLineEnd, comma, quote, lineFeed, carriageReturn, Bool.or_eq_false_iff,
      beq_eq_false_iff_ne, ne_eq, ← UInt8.toNat_inj, hb]
    simp
    omega

/-- A number is written as bytes that do not end a field. -/
theorem isPlain_of_isNumeric {s : String} (h : Decimal.isNumeric s.toList = true) :
    Utf8.encode s ≠ [] ∧ ∀ b ∈ Utf8.encode s, IsPlain b := by
  obtain ⟨hne, hc⟩ := Decimal.isNumericChar_of_isNumeric h
  rw [Utf8.encode]
  generalize s.toList = cs at hne hc
  constructor
  · cases cs with
    | nil => exact absurd rfl hne
    | cons c rest =>
      obtain ⟨b, hb, _⟩ := isPlain_of_isNumericChar (hc c List.mem_cons_self)
      simp [hb]
  · intro b hb
    obtain ⟨c, hm, hb⟩ := List.mem_flatMap.1 hb
    obtain ⟨b', he, hp⟩ := isPlain_of_isNumericChar (hc c hm)
    rw [he] at hb
    rwa [List.mem_singleton.1 hb]

/-- A separator ends a field in its own way. -/
structure Separates (separator : UInt8) (stop : Bytes → Stop) : Prop where
  ends : ∀ rest, bareField (separator :: rest) = ([], stop rest)
  ne_quote : separator ≠ quote

theorem separates_comma : Separates comma Stop.field := ⟨fun _ => rfl, by decide⟩

theorem separates_lineFeed : Separates lineFeed Stop.row := ⟨fun _ => rfl, by decide⟩

variable {separator : UInt8} {stop : Bytes → Stop}

theorem bareField_append (hs : Separates separator stop) {field : Bytes} (hf : ∀ b ∈ field, IsPlain b)
    (rest : Bytes) : bareField (field ++ separator :: rest) = (field, stop rest) := by
  induction field with
  | nil => exact hs.ends rest
  | cons b bs ih =>
    obtain ⟨⟨hc, _, hl, _⟩, htail⟩ := List.forall_mem_cons.1 hf
    rw [List.cons_append, bareField, if_neg hc, if_neg (by simp [hl]), ih htail]

/-- What is written between quotes is read up to the closing quote. -/
theorem quotedField_append (hs : Separates separator stop) (field rest : Bytes) :
    quotedField ((field.flatMap fun b => if b = quote then [quote, quote] else [b]) ++
      quote :: separator :: rest) = (field, stop rest) := by
  induction field with
  | nil =>
    rw [List.flatMap_nil, List.nil_append, quotedField, if_pos rfl, if_neg hs.ne_quote, hs.ends]
  | cons b bs ih =>
    by_cases hb : b = quote
    · simp only [List.flatMap_cons, hb, if_true, List.cons_append, List.nil_append]
      rw [quotedField, if_pos rfl, if_pos rfl, ih]
    · simp only [List.flatMap_cons, hb, if_false, List.cons_append, List.nil_append]
      generalize hm : (bs.flatMap fun b => if b = quote then [quote, quote] else [b]) ++
        quote :: separator :: rest = more at ih
      cases more with
      | nil => simp at hm
      | cons c tail => rw [quotedField, if_neg hb, ih]

/-- **A written field is read as its text**, whether it stands between quotes or not. -/
theorem anyField_fieldBytes (hs : Separates separator stop) (s : String) (rest : Bytes) :
    anyField (fieldBytes s ++ separator :: rest) = (Utf8.encode s, stop rest) := by
  unfold fieldBytes
  split
  · rename_i h
    obtain ⟨hne, hp⟩ := isPlain_of_isNumeric h
    have bare := bareField_append hs hp rest
    generalize Utf8.encode s = field at hne hp bare
    cases field with
    | nil => exact absurd rfl hne
    | cons b bs =>
      rw [List.cons_append] at bare ⊢
      rw [anyField, if_neg (hp b List.mem_cons_self).2.1, bare]
  · rw [inQuotes, List.append_assoc, List.append_assoc]
    exact quotedField_append hs (Utf8.encode s) rest

/-- A written field starts with a byte that neither ends a line nor starts a byte order mark. -/
theorem fieldBytes_eq_cons (s : String) :
    ∃ b bs, fieldBytes s = b :: bs ∧ isLineEnd b = false ∧ b ≠ 0xEF := by
  unfold fieldBytes
  split
  · rename_i h
    obtain ⟨hne, hp⟩ := isPlain_of_isNumeric h
    cases hf : Utf8.encode s with
    | nil => exact absurd hf hne
    | cons b bs => exact ⟨b, bs, rfl, (hp b (by simp [hf])).2.2⟩
  · exact ⟨quote, _, rfl, rfl, by decide⟩

/-! ## Rows -/

/-- There are no more fields than bytes that are written of them. -/
theorem length_le_joinFields : ∀ {fields : List Bytes}, (∀ f ∈ fields, f ≠ []) →
    fields.length ≤ (joinFields fields).length
  | [], _ => Nat.zero_le _
  | [f], h => List.length_pos_iff.2 (h f List.mem_cons_self)
  | f :: f' :: rest, h => by
    have ih := length_le_joinFields fun f hf => h f (List.mem_cons_of_mem _ hf)
    rw [show joinFields (f :: f' :: rest) = f ++ comma :: joinFields (f' :: rest) from rfl]
    simp only [List.length_append, List.length_cons] at ih ⊢
    omega

/-- What is written of a field is read as a cell, whatever separates it from the next one. -/
def ReadAs (written cell : Bytes) : Prop :=
  ∀ (separator : UInt8) (stop : Bytes → Stop), Separates separator stop →
    ∀ rest, anyField (written ++ separator :: rest) = (cell, stop rest)

/-- The cells that are read of a row, and the bytes after it. -/
theorem fieldsOf_joinFields : ∀ {written cells : List Bytes} {fuel : Nat}, List.Forall₂ ReadAs written cells →
    written ≠ [] → written.length ≤ fuel →
    ∀ rest, fieldsOf fuel (joinFields written ++ lineFeed :: rest) = (cells, rest)
  | _, _, _, .nil, h, _, _ => absurd rfl h
  | _ :: _, _, 0, _, _, hf, _ => by simp at hf
  | [_], [_], fuel + 1, .cons here .nil, _, _, rest => by
    rw [joinFields, fieldsOf, here lineFeed Stop.row separates_lineFeed rest]
  | w :: w' :: more, c :: c' :: cells, fuel + 1, .cons here others, _, hf, rest => by
    have enough : (w' :: more).length ≤ fuel := by
      simp only [List.length_cons] at hf ⊢
      omega
    have ih := fieldsOf_joinFields others (List.cons_ne_nil w' more) enough rest
    rw [show joinFields (w :: w' :: more) = w ++ comma :: joinFields (w' :: more) from rfl, List.append_assoc,
      List.cons_append, fieldsOf, here comma Stop.field separates_comma]
    simp only [ih]

/-- The fields of a written row, and the bytes after it. -/
theorem fieldsOf_rowBytes {row : List String} {fuel : Nat} (h : row ≠ []) (hf : row.length ≤ fuel) (rest : Bytes) :
    fieldsOf fuel (rowBytes row ++ rest) = (row.map Utf8.encode, rest) := by
  have read : List.Forall₂ ReadAs (row.map fieldBytes) (row.map Utf8.encode) := by
    rw [List.forall₂_map_left_iff, List.forall₂_map_right_iff, List.forall₂_same]
    exact fun s _ _ _ hs => anyField_fieldBytes hs s
  rw [rowBytes, List.append_assoc]
  exact fieldsOf_joinFields read (by simpa using h) (by simpa using hf) rest

theorem rowBytes_eq_cons {row : List String} (h : row ≠ []) :
    ∃ b bs, rowBytes row = b :: bs ∧ isLineEnd b = false ∧ b ≠ 0xEF := by
  match row, h with
  | [s], _ =>
    obtain ⟨b, bs, hf, hb⟩ := fieldBytes_eq_cons s
    exact ⟨b, bs ++ [lineFeed], by simp [rowBytes, joinFields, hf], hb⟩
  | s :: s' :: rest, _ =>
    obtain ⟨b, bs, hf, hb⟩ := fieldBytes_eq_cons s
    exact ⟨b, _, by simp only [rowBytes, List.map_cons, joinFields, hf, List.cons_append]; rfl, hb⟩

theorem length_rowBytes (row : List String) : row.length < (rowBytes row).length := by
  have written : ∀ f ∈ row.map fieldBytes, f ≠ [] := by
    rintro _ hf
    obtain ⟨s, -, rfl⟩ := List.mem_map.1 hf
    obtain ⟨b, bs, hs, -⟩ := fieldBytes_eq_cons s
    exact hs ▸ List.cons_ne_nil b bs
  have := length_le_joinFields written
  rw [List.length_map] at this
  rw [rowBytes, List.length_append, List.length_singleton]
  omega

theorem length_le_flatMap_rowBytes (rows : List (List String)) :
    rows.length ≤ (rows.flatMap rowBytes).length := by
  induction rows with
  | nil => exact Nat.le_refl _
  | cons row rest ih =>
    have := length_rowBytes row
    rw [List.flatMap_cons, List.length_append, List.length_cons]
    omega

namespace Reader

theorem texts_map_encode (start : Position) (row : List String) (i : Nat) :
    texts start i (row.map Utf8.encode) = .ok row := by
  induction row generalizing i with
  | nil => rfl
  | cons s rest ih =>
    rw [List.map_cons, texts, Utf8.decode_encode]
    simp only [ih]
    rfl

/-- A reader at a written row reads it, if it is as wide as the first row. -/
theorem next_rowBytes {r : Reader} {row : List String} {more : Bytes} (hr : row ≠ [])
    (hb : r.rest = rowBytes row ++ more) (hw : ∀ w ∈ r.width, row.length = w) :
    ∃ r', r.next = (.ok (some row), r') ∧ r'.rest = more ∧ r'.width = some row.length := by
  obtain ⟨b, bs, hcons, hl, _⟩ := rowBytes_eq_cons hr
  have body : r.rest.dropWhile isLineEnd = rowBytes row ++ more := by
    rw [hb, hcons, List.cons_append, List.dropWhile_cons_of_neg (by simp [hl])]
  have nonempty : rowBytes row ++ more ≠ [] := by simp [hcons]
  have fuel : row.length ≤ (rowBytes row ++ more).length + 1 := by
    have := length_rowBytes row
    rw [List.length_append]
    omega
  have fields := fieldsOf_rowBytes hr fuel more
  rw [next]
  simp only [body, if_neg nonempty, fields, texts_map_encode, List.length_map]
  cases hwid : r.width with
  | none => exact ⟨_, rfl, rfl, rfl⟩
  | some w =>
    have : row.length = w := hw w hwid
    subst this
    simp only [if_true]
    exact ⟨_, rfl, rfl, rfl⟩

theorem next_nil {r : Reader} (h : r.rest = []) : r.next = (.ok none, { r with rest := [] }) := by
  rw [next]
  simp [h]

theorem go_rows : ∀ {rows : List (List String)} {fuel width : Nat} {r : Reader}, width ≠ 0 →
    (∀ row ∈ rows, row.length = width) → rows.length < fuel → r.width = some width →
    r.rest = rows.flatMap rowBytes → Reader.rows.go fuel r = (rows, none)
  | _, 0, _, _, _, _, hf, _, _ => by simp at hf
  | [], fuel + 1, _, r, _, _, _, _, hr => by rw [Reader.rows.go, next_nil hr]
  | row :: rest, fuel + 1, width, r, h0, hl, hf, hw, hr => by
    obtain ⟨hrow, hrest⟩ := List.forall_mem_cons.1 hl
    have hne : row ≠ [] := by
      rintro rfl
      exact h0 hrow.symm
    have here : r.rest = rowBytes row ++ rest.flatMap rowBytes := by rw [hr, List.flatMap_cons]
    obtain ⟨r', hn, hr', hw'⟩ := next_rowBytes hne here (by simp [hw, hrow])
    have enough : rest.length < fuel := by simpa using hf
    rw [Reader.rows.go, hn]
    simp only [go_rows h0 hrest enough (hw'.trans (by rw [hrow])) hr']

/-- **A written file reads back**: its header, then all of its rows and no fault. -/
theorem read_written {header : List String} {rows : List (List String)} (h : header ≠ [])
    (hl : ∀ row ∈ rows, row.length = header.length) :
    ∃ r, (ofBytes (rowBytes header ++ rows.flatMap rowBytes)).header = (.ok header, r) ∧
      r.rows = (rows, none) := by
  obtain ⟨b, bs, hcons, _, hm⟩ := rowBytes_eq_cons h
  have start : (ofBytes (rowBytes header ++ rows.flatMap rowBytes)).rest =
      rowBytes header ++ rows.flatMap rowBytes ∧
      (ofBytes (rowBytes header ++ rows.flatMap rowBytes)).width = none := by
    rw [hcons, List.cons_append, ofBytes]
    · exact ⟨rfl, rfl⟩
    · rintro tail he
      exact absurd (List.cons.inj he).1 hm
  obtain ⟨r, hn, hr, hw⟩ := next_rowBytes h start.1 (by simp [start.2])
  refine ⟨r, by rw [Reader.header, hn]; rfl, ?_⟩
  have bound : rows.length < r.rest.length + 1 := by
    have := length_le_flatMap_rowBytes rows
    rw [hr]
    omega
  have wide : header.length ≠ 0 := by simpa using h
  rw [Reader.rows]
  exact go_rows wide hl bound hw hr

end Reader

end MetaGraph.Csv

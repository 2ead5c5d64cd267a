/-
Values that come column by column: a union of as many paths as there are
fields selects a column for each field, and only all columns together are
divided into rows. Columns of one length are put side by side. Columns of
different lengths are refused only if all values do not happen to be a
multiple of the fields; otherwise they are divided where no column ends.
-/
import MetaGraph.Proofs.Join.Configured

namespace MetaGraph

/-! ## Columns side by side -/

namespace Rows

variable {α : Type} {columns : List (List α)} {rows : Nat}

/-- Of aligned lists each holds a value at every place. -/
theorem column_eq_map {i : Nat} (hi : i < rows) (other : α) (h : Aligned columns rows) :
    column columns i = columns.map fun column => column[i]?.getD other := by
  induction columns with
  | nil => rfl
  | cons first columns ih =>
    obtain ⟨here, rest⟩ := List.forall_mem_cons.1 h
    have inside : i < first.length := here ▸ hi
    rw [column_cons inside, ih rest, List.map_cons, List.getElem?_eq_getElem inside]
    rfl

/-- Aligned columns are divided into the rows across them. -/
theorem divide_aligned (some : columns ≠ []) (h : Aligned columns rows) (other : α) :
    divide columns.flatten columns.length true =
      .ok ((List.range rows).map fun i => columns.map fun column => column[i]?.getD other) := by
  have full : columns.flatten.length = rows * columns.length := by rw [h.length_flatten, Nat.mul_comm]
  rw [divide_full (List.length_pos_iff.2 some) full, if_pos rfl, runs_flatten h, transposed]
  exact congrArg Except.ok (List.map_congr_left fun i hi => column_eq_map (List.mem_range.1 hi) other h)

/-- Values are divided by their number alone, wherever the columns end. -/
theorem divide_byColumn (values : List α) {width : Nat} (given : 1 ≤ width) :
    if width ∣ values.length then
      ∃ all, divide values width true = .ok all ∧ all.length = values.length / width
    else divide values width true = .error (.uneven values.length width) := by
  split
  · rename_i full
    exact ⟨_, divide_full given (Nat.div_mul_cancel full).symm true, by simp [transposed]⟩
  · rename_i uneven
    exact divide_uneven given uneven true

end Rows

/-! ## The fields of a row -/

namespace QueryStep

open Rows (Aligned)

variable {q : QueryStep} {record : Record} {address : String} {response : Json}

/-- What the paths of a step select, path by path. -/
def columns (q : QueryStep) (response : Json) : List (List Json) :=
  q.path.parts.map fun path => path.select response response

/-- The row across aligned columns at one place. -/
def acrossRow (q : QueryStep) (response : Json) (i : Nat) : List Json :=
  (q.columns response).map fun column => column[i]?.getD .null

theorem find_eq_flatten (q : QueryStep) (response : Json) :
    q.path.find response = (q.columns response).flatten := by
  rw [JsonPath.find, columns, List.flatMap_def]

/-- The field of a row holds a value that stands there for some field of that name. -/
theorem Overwrites.exists_field {row : List Json} {out : Record} (h : q.Overwrites row record out)
    {name : String} (hn : name ∈ q.fields) :
    ∃ (j : Nat) (v : Json), q.fields[j]? = some name ∧ row[j]? = some v ∧ out.get? name = some v := by
  obtain ⟨held, given⟩ := h.set name hn
  obtain ⟨v, hv⟩ := Option.isSome_iff_exists.1 given
  obtain ⟨before, after, entries, -⟩ := List.lookup_eq_some_iff.1 (held.symm.trans hv)
  have entry : (name, v) ∈ q.fields.zip row := by
    rw [← List.mem_reverse, entries]
    exact List.mem_append_right before List.mem_cons_self
  obtain ⟨j, hj⟩ := List.mem_iff_getElem?.1 entry
  rw [List.getElem?_zip_eq_some] at hj
  exact ⟨j, v, hj.1, hj.2, hv⟩

/-- The records are the columns side by side: as many as each column has values, and each value
stands in the record of its place in the column, in the field of its column. -/
structure Paired (q : QueryStep) (response : Json) (records : List Record) (rows : Nat) : Prop where
  aligned : Aligned (q.columns response) rows
  all : 0 < rows → records.length = rows
  held : ∀ i < rows, ∃ out, records[i]? = some out ∧
    ∀ (j : Nat) (field : String) (column : List Json), q.fields[j]? = some field →
      (q.columns response)[j]? = some column → out.get? field = column[i]?

/-- Whatever the step yields for an answer is paired, and an answer that cannot be paired is refused. -/
def PairsUp (q : QueryStep) (record : Record) (address : String) (response : Json) : Prop :=
  (∀ records rows, q.rowsOf record address response = .ok (records, rows) →
    q.Paired response records rows) ∧
  ((∀ rows, ¬ Aligned (q.columns response) rows) →
    ∃ message, q.rowsOf record address response = .error (.invalidResponse address message))

/-- Fields of one name have the same column. -/
def NamesAgree (q : QueryStep) (response : Json) : Prop :=
  ∀ (j j' : Nat) (field : String) (column column' : List Json),
    q.fields[j]? = some field → q.fields[j']? = some field →
      (q.columns response)[j]? = some column → (q.columns response)[j']? = some column' → column = column'

theorem namesAgree_of_nodup (distinct : q.fields.Nodup) : q.NamesAgree response := by
  intro j j' field column column' hj hj' hc hc'
  obtain ⟨inside, -⟩ := List.getElem?_eq_some_iff.1 hj
  obtain rfl := (List.getElem?_inj inside distinct).1 (hj.trans hj'.symm)
  exact Option.some.inj (hc.symm.trans hc')

/-- Where records are paired, fields of one name have the same column. -/
theorem Paired.namesAgree {records : List Record} {rows : Nat} (paired : q.Paired response records rows) :
    q.NamesAgree response := by
  intro j j' field column column' hj hj' hc hc'
  have length := paired.aligned column (List.mem_of_getElem? hc)
  have length' := paired.aligned column' (List.mem_of_getElem? hc')
  refine List.ext_getElem? fun i => ?_
  by_cases hi : i < rows
  · obtain ⟨out, -, held⟩ := paired.held i hi
    rw [← held j field column hj hc, ← held j' field column' hj' hc']
  · rw [List.getElem?_eq_none (by omega), List.getElem?_eq_none (by omega)]

/-- Where nothing is found there is nothing to pair, whatever becomes of the record. -/
theorem paired_of_empty (found : Aligned (q.columns response) 0) : q.PairsUp record address response := by
  have empty : q.path.find response = [] := by
    rw [find_eq_flatten, List.flatten_eq_nil_iff]
    exact fun column hc => List.length_eq_zero_iff.1 (found column hc)
  refine ⟨fun records rows hr => ?_, fun uneven => absurd found (uneven 0)⟩
  have none : rows = 0 := by
    rw [rowsOf, empty] at hr
    dsimp only at hr
    split at hr <;> cases hr <;> rfl
  subst none
  exact ⟨found, nofun, nofun⟩

/-- A step that takes column after column, one for each field, and is not to coalesce. -/
structure ByUnion (q : QueryStep) : Prop where
  separate : q.coalesce = false
  byColumn : q.byColumn = true
  some : q.fields ≠ []
  bound : q.path.parts.length = q.fields.length

section ByUnion

variable (h : q.ByUnion)

include h

theorem ByUnion.length_columns (response : Json) : (q.columns response).length = q.fields.length := by
  rw [columns, List.length_map, h.bound]

/-- Only an answer in which nothing is found is not divided. -/
theorem ByUnion.rowsOf_of_find (found : q.path.find response ≠ []) :
    q.rowsOf record address response =
      match Rows.divide (q.columns response).flatten (q.columns response).length true with
      | .ok rows => .ok (rows.map (q.join record), rows.length)
      | .error e => .error (.invalidResponse address e.message) := by
  rw [rowsOf, ← find_eq_flatten, h.length_columns]
  cases hf : q.path.find response with
  | nil => exact absurd hf found
  | cons v vs =>
    cases hd : Rows.divide (v :: vs) q.fields.length true <;> simp [h.separate, h.byColumn, hd]

theorem ByUnion.rowsOf_aligned (record : Record) (address : String) {rows : Nat}
    (aligned : Aligned (q.columns response) rows) (given : 0 < rows) :
    q.rowsOf record address response =
      .ok ((List.range rows).map fun i => q.join record (q.acrossRow response i), rows) := by
  have some : q.columns response ≠ [] := by
    intro he
    have := h.length_columns response
    rw [he] at this
    exact h.some (List.length_eq_zero_iff.1 this.symm)
  have found : q.path.find response ≠ [] := by
    intro he
    have length := aligned.length_flatten
    rw [← find_eq_flatten, he, h.length_columns, List.length_nil] at length
    exact absurd length (Nat.ne_of_lt (Nat.mul_pos (List.length_pos_iff.2 h.some) given))
  rw [h.rowsOf_of_find found, Rows.divide_aligned some aligned .null]
  simp [acrossRow, Function.comp_def]

theorem ByUnion.length_acrossRow (response : Json) (i : Nat) :
    (q.acrossRow response i).length = q.fields.length := by
  rw [acrossRow, List.length_map, h.length_columns]

/-- Aligned columns come out paired, if fields of one name do not contend for it. -/
theorem ByUnion.paired {rows : Nat} (aligned : Aligned (q.columns response) rows)
    (agree : q.NamesAgree response) :
    q.Paired response ((List.range rows).map fun i => q.join record (q.acrossRow response i)) rows := by
  refine ⟨aligned, fun _ => by simp, fun i hi =>
    ⟨q.join record (q.acrossRow response i), by simp [hi], fun j field column hj hc => ?_⟩⟩
  have overwrites := overwrites_join (h.length_acrossRow response i) record
  obtain ⟨j', v, hj', hv, holds⟩ := overwrites.exists_field (List.mem_of_getElem? hj)
  rw [acrossRow, List.getElem?_map, Option.map_eq_some_iff] at hv
  obtain ⟨column', hc', rfl⟩ := hv
  obtain rfl := agree j j' field column column' hj hj' hc hc'
  have inside : i < column.length := aligned column (List.mem_of_getElem? hc) ▸ hi
  rw [holds, List.getElem?_eq_getElem inside]
  rfl

/-- What is found is divided into full rows, if there are enough values for that. -/
theorem ByUnion.rowsOf_uneven (record : Record) (address : String)
    (uneven : ∀ rows, ¬ Aligned (q.columns response) rows) :
    if q.fields.length ∣ (q.path.find response).length then
      ∃ records, q.rowsOf record address response =
        .ok (records, (q.path.find response).length / q.fields.length)
    else ∃ message, q.rowsOf record address response = .error (.invalidResponse address message) := by
  have found : q.path.find response ≠ [] := by
    intro he
    rw [find_eq_flatten, List.flatten_eq_nil_iff] at he
    exact uneven 0 fun column hc => List.length_eq_zero_iff.2 (he column hc)
  have division := Rows.divide_byColumn (q.path.find response) (List.length_pos_iff.2 h.some)
  rw [h.rowsOf_of_find found, ← find_eq_flatten, h.length_columns]
  split at division
  · rename_i full
    obtain ⟨all, divided, length⟩ := division
    rw [if_pos full, divided, ← length]
    exact ⟨_, rfl⟩
  · rename_i full
    rw [if_neg full, division]
    exact ⟨_, rfl⟩

theorem ByUnion.pairsUp_iff : q.PairsUp record address response ↔
    ((∃ rows, Aligned (q.columns response) rows) ∧ q.NamesAgree response) ∨
      ((∀ rows, ¬ Aligned (q.columns response) rows) ∧
        ¬ q.fields.length ∣ (q.path.find response).length) := by
  by_cases aligned : ∃ rows, Aligned (q.columns response) rows
  · obtain ⟨rows, aligned⟩ := aligned
    rw [or_iff_left fun uneven => uneven.1 rows aligned, and_iff_right ⟨rows, aligned⟩]
    rcases Nat.eq_zero_or_pos rows with rfl | given
    · have none : q.Paired response [] 0 := ⟨aligned, nofun, nofun⟩
      exact iff_of_true (paired_of_empty aligned) none.namesAgree
    · have yields := h.rowsOf_aligned record address aligned given
      refine ⟨fun pairs => (pairs.1 _ _ yields).namesAgree, fun agree => ⟨fun records count hr => ?_, ?_⟩⟩
      · cases yields.symm.trans hr
        exact h.paired aligned agree
      · exact fun uneven => absurd aligned (uneven rows)
  · have uneven := not_exists.1 aligned
    rw [or_iff_right fun even => aligned even.1, and_iff_right uneven]
    have result := h.rowsOf_uneven record address uneven
    split at result
    · rename_i full
      obtain ⟨records, yields⟩ := result
      exact iff_of_false (fun pairs => uneven _ (pairs.1 _ _ yields).aligned) (not_not_intro full)
    · rename_i full
      obtain ⟨message, refused⟩ := result
      refine iff_of_true ⟨fun records rows hr => ?_, fun _ => ⟨message, refused⟩⟩ full
      cases refused.symm.trans hr

end ByUnion

/-- **When columns come out paired**: for an answer whose columns are of one length they do, if no
two fields of one name have different columns. Columns of different lengths are refused exactly if
the fields do not divide the number of all values; if they do, there come records from values that
cannot be paired. -/
theorem pairsUp_of_build {config : QueryConfig} {params : RequestParams} {retry : RetryConfig} {q : QueryStep}
    (built : config.build params retry = .ok q) (byColumn : q.byColumn = true)
    (union : q.path.isUnion = true) (bound : q.path.parts.length = q.fields.length) (record : Record)
    (address : String) (response : Json) :
    (q.PairsUp record address response ↔
      ((∃ rows, Aligned (q.columns response) rows) ∧ q.NamesAgree response) ∨
        ((∀ rows, ¬ Aligned (q.columns response) rows) ∧
          ¬ q.fields.length ∣ (q.path.find response).length)) ∧
    (∀ rows, Aligned (q.columns response) rows → 0 < rows → ∃ records,
      q.rowsOf record address response = .ok (records, rows) ∧ records.length = rows) ∧
    ((∀ rows, ¬ Aligned (q.columns response) rows) → q.fields.length ∣ (q.path.find response).length →
      ∃ records, q.rowsOf record address response =
        .ok (records, (q.path.find response).length / q.fields.length)) := by
  have several : 1 < q.fields.length := by simpa [JsonPath.isUnion, bound] using union
  have separate : q.coalesce = false := by
    cases hc : q.coalesce with
    | false => rfl
    | true =>
      have := (QueryConfig.build_ok built).2.2 hc
      omega
  have some : q.fields ≠ [] := List.length_pos_iff.1 (by omega)
  have h : q.ByUnion := ⟨separate, byColumn, some, bound⟩
  refine ⟨h.pairsUp_iff,
    fun rows aligned given => ⟨_, h.rowsOf_aligned record address aligned given, by simp⟩,
    fun uneven full => ?_⟩
  have result := h.rowsOf_uneven record address uneven
  rwa [if_pos full] at result

end QueryStep

namespace Join

/-- The items of a shop and their names, in two lists. -/
def columnQuery : QueryConfig where
  url := "http://shop/{shop}"
  jsonPath := "(ids[*]) | (names[*])"
  fieldNames := ["item", "name"]
  byColumn := true

def columnStep : QueryStep where
  url := "http://shop/{shop}"
  path := ⟨"(ids[*]) | (names[*])",
    [.of true [.of false [.name "ids"], .of false [.wildcard]],
      .of true [.of false [.name "names"], .of false [.wildcard]]]⟩
  fields := ["item", "name"]
  byColumn := true

theorem parse_columns : JsonPath.parse "(ids[*]) | (names[*])" = .ok ⟨"(ids[*]) | (names[*])",
    [.of true [.of false [.name "ids"], .of false [.wildcard]],
      .of true [.of false [.name "names"], .of false [.wildcard]]]⟩ := by
  have parts : JsonPath.splitUnion "(ids[*]) | (names[*])".toList =
      ["(ids[*]) ".toList, " (names[*])".toList] := by decide +kernel
  have ids : JsonPath.complete "(ids[*]) ".toList = ['$', '.', 'i', 'd', 's', '[', '*', ']'] := by
    decide +kernel
  have names : JsonPath.complete " (names[*])".toList =
      ['$', '.', 'n', 'a', 'm', 'e', 's', '[', '*', ']'] := by decide +kernel
  rw [JsonPath.parse, parts, List.mapM_cons, List.mapM_cons, List.mapM_nil, ids, names]
  rfl

theorem build_columnQuery : columnQuery.build {} {} = .ok columnStep := by
  simp only [columnQuery, QueryConfig.build, PagingConfig.build, parse_columns]
  rfl

/-- An answer with a name for each item. -/
def evenAnswer : Json :=
  .object [("ids", .array [.text "a", .text "b"]), ("names", .array [.text "x", .text "y"])]

/-- An answer with one item and three names, which makes four values for two fields. -/
def unevenAnswer : Json :=
  .object [("ids", .array [.text "a"]), ("names", .array [.text "x", .text "y", .text "z"])]

/-- Each item of the even answer comes with its name. -/
theorem pairsUp_evenAnswer :
    columnQuery.build {} {} = .ok columnStep ∧ columnStep.byColumn = true ∧
      columnStep.path.isUnion = true ∧ columnStep.path.parts.length = columnStep.fields.length ∧
      columnStep.PairsUp [("shop", .text "1")] "http://shop/1" evenAnswer ∧
      ∃ records, columnStep.rowsOf [("shop", .text "1")] "http://shop/1" evenAnswer = .ok (records, 2) := by
  have aligned : Rows.Aligned (columnStep.columns evenAnswer) 2 := by
    unfold Rows.Aligned
    decide +kernel
  obtain ⟨pairs, yields, -⟩ := QueryStep.pairsUp_of_build build_columnQuery rfl rfl rfl
    [("shop", .text "1")] "http://shop/1" evenAnswer
  obtain ⟨records, hr, -⟩ := yields 2 aligned (by decide)
  refine ⟨build_columnQuery, rfl, rfl, rfl, pairs.2 (.inl ⟨⟨2, aligned⟩, ?_⟩), records, hr⟩
  exact QueryStep.namesAgree_of_nodup (q := columnStep) (by decide)

/-- Of the uneven answer the item comes with the second name, and the first name takes the place of
an item. -/
theorem mispaired_unevenAnswer :
    columnQuery.build {} {} = .ok columnStep ∧
      columnStep.columns unevenAnswer = [[.text "a"], [.text "x", .text "y", .text "z"]] ∧
      columnStep.rowsOf [("shop", .text "1")] "http://shop/1" unevenAnswer =
        .ok ([[("item", .text "a"), ("name", .text "y"), ("shop", .text "1")],
          [("item", .text "x"), ("name", .text "z"), ("shop", .text "1")]], 2) ∧
      ¬ columnStep.PairsUp [("shop", .text "1")] "http://shop/1" unevenAnswer := by
  have columns : columnStep.columns unevenAnswer = [[.text "a"], [.text "x", .text "y", .text "z"]] := by
    decide +kernel
  have yields : columnStep.rowsOf [("shop", .text "1")] "http://shop/1" unevenAnswer =
      .ok ([[("item", .text "a"), ("name", .text "y"), ("shop", .text "1")],
        [("item", .text "x"), ("name", .text "z"), ("shop", .text "1")]], 2) :=
    except_eq_ok_of_toOption (by decide +kernel)
  refine ⟨build_columnQuery, columns, yields, fun pairs => ?_⟩
  have aligned := (pairs.1 _ _ yields).aligned
  rw [columns] at aligned
  exact absurd (aligned [.text "a"] List.mem_cons_self) (by decide)

end Join

end MetaGraph

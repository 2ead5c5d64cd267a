/-
Values divided into rows, by row or by column. Either way every value is in
one row once: the rows one after the other are the values, or their columns
one after the other are. To divide by column is to divide by row what the
columns give by turns. Values that do not fill their rows are not divided at
all.
-/
import MetaGraph.Rest.Rows

namespace MetaGraph.Rows

variable {α : Type} {width rows : Nat}

/-- All lists have one length: columns with a value for each row, or rows with one for each field. -/
def Aligned (lists : List (List α)) (n : Nat) : Prop := ∀ list ∈ lists, list.length = n

theorem Aligned.length_flatten {lists : List (List α)} {n : Nat} (h : Aligned lists n) :
    lists.flatten.length = lists.length * n := by
  induction lists with
  | nil => simp
  | cons list lists ih =>
    obtain ⟨here, rest⟩ := List.forall_mem_cons.1 h
    rw [List.flatten_cons, List.length_append, here, ih rest, List.length_cons, Nat.succ_mul, Nat.add_comm]

/-! ## Runs of values -/

/-- Runs off the front of the values, up to the first one that is empty. -/
def chunks (width : Nat) (values : List α) : List (List α) :=
  if values.take width = [] then [] else values.take width :: chunks width (values.drop width)
termination_by values.length
decreasing_by
  rename_i given
  rw [List.take_eq_nil_iff, not_or] at given
  have := List.length_pos_iff.2 given.2
  rw [List.length_drop]
  omega

@[simp] theorem length_runs (width rows : Nat) (values : List α) : (runs width rows values).length = rows := by
  induction rows generalizing values with
  | zero => rfl
  | succ rows ih => rw [runs, List.length_cons, ih]

theorem length_drop_of_full {values : List α} (h : values.length = (rows + 1) * width) :
    (values.drop width).length = rows * width := by
  rw [List.length_drop, h, Nat.succ_mul, Nat.add_sub_cancel]

theorem aligned_runs {values : List α} (h : values.length = rows * width) :
    Aligned (runs width rows values) width := by
  induction rows generalizing values with
  | zero => exact nofun
  | succ rows ih =>
    refine List.forall_mem_cons.2 ⟨?_, ih (length_drop_of_full h)⟩
    rw [List.length_take, h, Nat.succ_mul]
    omega

theorem flatten_runs {values : List α} (h : values.length = rows * width) :
    (runs width rows values).flatten = values := by
  induction rows generalizing values with
  | zero =>
    rw [Nat.zero_mul, List.length_eq_zero_iff] at h
    rw [h]
    rfl
  | succ rows ih => rw [runs, List.flatten_cons, ih (length_drop_of_full h), List.take_append_drop]

/-- Lists of one length are the runs of what they make up. -/
theorem runs_flatten {lists : List (List α)} (h : Aligned lists width) :
    runs width lists.length lists.flatten = lists := by
  induction lists with
  | nil => rfl
  | cons list lists ih =>
    obtain ⟨here, rest⟩ := List.forall_mem_cons.1 h
    rw [List.length_cons, runs, List.flatten_cons, List.take_left' here, List.drop_left' here, ih rest]

/-- The runs of full rows end where the first empty one would come. -/
theorem chunks_eq_runs (given : 1 ≤ width) {values : List α} (h : values.length = rows * width) :
    chunks width values = runs width rows values := by
  induction rows generalizing values with
  | zero =>
    rw [Nat.zero_mul, List.length_eq_zero_iff] at h
    rw [chunks, h, List.take_nil, if_pos rfl]
    rfl
  | succ rows ih =>
    have some : values.take width ≠ [] := by
      rw [← List.length_pos_iff, List.length_take, h, Nat.succ_mul]
      omega
    rw [chunks, if_neg some, ih (length_drop_of_full h), runs]

/-! ## Columns of rows -/

/-- What lists hold at one place. -/
def column (lists : List (List α)) (i : Nat) : List α := lists.filterMap (·[i]?)

/-- The columns of rows, or the rows of columns. -/
def transposed (lists : List (List α)) (width : Nat) : List (List α) := (List.range width).map (column lists)

/-- One value of each list after the other, by turns. -/
def interleave : Nat → List (List α) → List α
  | 0, _ => []
  | turns + 1, lists => lists.filterMap List.head? ++ interleave turns (lists.map List.tail)

theorem column_cons {list : List α} {i : Nat} (hi : i < list.length) (lists : List (List α)) :
    column (list :: lists) i = list[i] :: column lists i := by
  simp [column, List.getElem?_eq_getElem hi]

section Aligned

variable {lists : List (List α)} {n : Nat} (h : Aligned lists n)

include h

theorem length_column {i : Nat} (hi : i < n) : (column lists i).length = lists.length := by
  induction lists with
  | nil => rfl
  | cons list lists ih =>
    obtain ⟨here, rest⟩ := List.forall_mem_cons.1 h
    rw [column_cons (here ▸ hi), List.length_cons, List.length_cons, ih rest]

theorem getElem?_column {i : Nat} (hi : i < n) (j : Nat) : (column lists i)[j]? = lists[j]?.bind (·[i]?) := by
  induction lists generalizing j with
  | nil => rfl
  | cons list lists ih =>
    obtain ⟨here, rest⟩ := List.forall_mem_cons.1 h
    have inside : i < list.length := here ▸ hi
    rw [column_cons inside]
    cases j with
    | zero => simp [List.getElem?_eq_getElem inside]
    | succ j => simpa using ih rest j

theorem aligned_transposed : Aligned (transposed lists n) lists.length := by
  intro list hl
  obtain ⟨i, hi, rfl⟩ := List.mem_map.1 hl
  exact length_column h (List.mem_range.1 hi)

theorem transposed_transposed : transposed (transposed lists n) lists.length = lists := by
  refine List.ext_getElem (by simp [transposed]) fun j hj hl => ?_
  have long : lists[j].length = n := h _ (List.getElem_mem hl)
  have back : column (transposed lists n) j = lists[j] := by
    refine List.ext_getElem? fun i => ?_
    by_cases hi : i < n
    · rw [getElem?_column (aligned_transposed h) hl i]
      simp [transposed, hi, getElem?_column h hi, List.getElem?_eq_getElem hl]
    · have all : (column (transposed lists n) j).length = n := by
        rw [length_column (aligned_transposed h) hl]
        simp [transposed]
      rw [List.getElem?_eq_none (by omega), List.getElem?_eq_none (by omega)]
  simpa [transposed] using back

/-- By turns every value comes once. -/
theorem perm_interleave : (interleave n lists).Perm lists.flatten := by
  induction n generalizing lists with
  | zero =>
    have empty : lists.flatten = [] :=
      List.flatten_eq_nil_iff.2 fun list hl => List.length_eq_zero_iff.1 (h list hl)
    rw [empty]
    exact List.Perm.nil
  | succ n ih =>
    have shorter : Aligned (lists.map List.tail) n := by
      intro list hl
      obtain ⟨whole, hw, rfl⟩ := List.mem_map.1 hl
      rw [List.length_tail, h whole hw, Nat.add_sub_cancel]
    refine ((ih shorter).append_left _).trans ?_
    clear ih shorter
    induction lists with
    | nil => exact List.Perm.nil
    | cons list lists ih =>
      obtain ⟨here, rest⟩ := List.forall_mem_cons.1 h
      cases list with
      | nil => cases here
      | cons value list =>
        -- The head of the first list comes first; its tail is moved before the other heads.
        have moved : (lists.filterMap List.head? ++ (list ++ (lists.map List.tail).flatten)).Perm
            (list ++ (lists.filterMap List.head? ++ (lists.map List.tail).flatten)) := by
          rw [← List.append_assoc, ← List.append_assoc]
          exact List.perm_append_comm.append_right _
        simpa using (moved.trans ((ih rest).append_left list)).cons value

end Aligned

theorem interleave_eq (n : Nat) (lists : List (List α)) : interleave n lists = (transposed lists n).flatten := by
  induction n generalizing lists with
  | zero => rfl
  | succ n ih =>
    have heads : column lists 0 = lists.filterMap List.head? := by
      simp [column, ← List.head?_eq_getElem?]
    have tails : column (lists.map List.tail) = fun i => column lists (i + 1) := by
      funext i
      refine List.filterMap_map.trans (congrArg (List.filterMap · lists) (funext fun list => ?_))
      exact List.getElem?_tail
    simp [interleave, ih, transposed, List.range_succ_eq_map, heads, tails, Function.comp_def]

/-- Values at places with one stride between them are a column of the runs that are as long as the
stride. -/
theorem strided_eq_column {stride i : Nat} (hi : i < stride) (values : List α) (width start : Nat) :
    strided values stride width (start + i) = column (runs stride width (values.drop start)) i := by
  induction width generalizing start with
  | zero => rfl
  | succ width ih =>
    have here : ((values.drop start).take stride)[i]? = values[start + i]? := by
      rw [List.getElem?_take_of_lt hi, List.getElem?_drop]
    have next : start + i + stride = start + stride + i := by omega
    rw [strided, next, ih, runs, List.drop_drop, column, column, List.filterMap_cons, here]
    cases values[start + i]? <;> rfl

/-! ## Rows that are full -/

section Full

variable {values : List α} (given : 1 ≤ width) (full : values.length = rows * width)

include given full

theorem divide_full (byColumn : Bool) : divide values width byColumn =
    .ok (if byColumn then transposed (runs rows width values) rows else runs width rows values) := by
  have count : values.length / width = rows := by rw [full, Nat.mul_div_cancel _ given]
  have even : values.length % width = 0 := by rw [full, Nat.mul_mod_left]
  rw [divide, if_neg (by omega), if_neg (by omega), count]
  cases byColumn with
  | false => rfl
  | true =>
    refine congrArg Except.ok (List.map_congr_left fun i hi => ?_)
    simpa using strided_eq_column (List.mem_range.1 hi) values width 0

/-- To divide by column is to divide by row what the columns give by turns. -/
theorem divide_interleave : divide (interleave rows (runs rows width values)) width false =
    divide values width true := by
  have turned : values.length = width * rows := by rw [full, Nat.mul_comm]
  have lists := aligned_transposed (aligned_runs turned)
  rw [length_runs] at lists
  have length : (transposed (runs rows width values) rows).length = rows := by simp [transposed]
  have whole : (interleave rows (runs rows width values)).length = rows * width := by
    rw [interleave_eq, lists.length_flatten, length]
  have back := runs_flatten lists
  rw [length] at back
  rw [divide_full given whole, divide_full given full, interleave_eq]
  simp only [Bool.false_eq_true, if_false, if_true, back]

end Full

/-- Rows that values make up: each has a value for each field, and the rows one after the other are
the values, or, by column, their columns one after the other are. -/
structure IsDivision (values : List α) (width : Nat) (byColumn : Bool) (rows : List (List α)) : Prop where
  full : Aligned rows width
  kept : (if byColumn then transposed rows width else rows).flatten = values

theorem isDivision_of_full {values : List α} (full : values.length = rows * width) (byColumn : Bool) :
    IsDivision values width byColumn
      (if byColumn then transposed (runs rows width values) rows else runs width rows values) := by
  cases byColumn with
  | false => exact ⟨aligned_runs full, flatten_runs full⟩
  | true =>
    have turned : values.length = width * rows := by rw [full, Nat.mul_comm]
    have lists := aligned_transposed (aligned_runs turned)
    have back := transposed_transposed (aligned_runs turned)
    rw [length_runs] at lists back
    refine ⟨lists, ?_⟩
    simp only [if_true, back]
    exact flatten_runs turned

theorem IsDivision.length {values : List α} {byColumn : Bool} {all : List (List α)}
    (h : IsDivision values width byColumn all) : values.length = all.length * width := by
  rw [← h.kept]
  cases byColumn with
  | false => exact h.full.length_flatten
  | true =>
    have columns := (aligned_transposed h.full).length_flatten
    simpa [transposed, Nat.mul_comm] using columns

/-- **The division of values** into rows is the only one there is. -/
theorem divide_eq_ok_iff (given : 1 ≤ width) {values : List α} {byColumn : Bool} {all : List (List α)} :
    divide values width byColumn = .ok all ↔ IsDivision values width byColumn all := by
  constructor
  · intro divided
    have even : values.length % width = 0 := by
      refine Decidable.byContradiction fun uneven => ?_
      rw [divide, if_neg (by omega), if_pos uneven] at divided
      cases divided
    have full := (Nat.div_mul_cancel (Nat.dvd_of_mod_eq_zero even)).symm
    rw [divide_full given full, Except.ok.injEq] at divided
    rw [← divided]
    exact isDivision_of_full full byColumn
  · intro h
    rw [divide_full given h.length, ← h.kept]
    refine congrArg Except.ok ?_
    cases byColumn with
    | false => exact runs_flatten h.full
    | true =>
      have columns := runs_flatten (aligned_transposed h.full)
      rw [show (transposed all width).length = width by simp [transposed]] at columns
      simp only [if_true, columns]
      exact transposed_transposed h.full

theorem divide_uneven {values : List α} (given : 1 ≤ width) (uneven : ¬ width ∣ values.length) (byColumn : Bool) :
    divide values width byColumn = .error (.uneven values.length width) := by
  rw [divide, if_neg (by omega), if_pos fun even => uneven (Nat.dvd_of_mod_eq_zero even)]

/-- **Division keeps every value once.** Values that fill their rows are divided into so many full
rows; by row these make up the values, as they do when runs are taken until one is empty; by column
their columns make up the values, and they are what the columns give by turns. Any other values,
and rows without width, are refused either way. -/
theorem divide_exactly (values : List α) (width : Nat) :
    (∀ rows, 1 ≤ width → values.length = rows * width → ∃ byRow byColumn,
      divide values width false = .ok byRow ∧ divide values width true = .ok byColumn ∧
      (byRow.length = rows ∧ Aligned byRow width ∧ byRow.flatten = values ∧ byRow = chunks width values) ∧
      (byColumn.length = rows ∧ Aligned byColumn width ∧ (transposed byColumn width).flatten = values ∧
        Aligned (transposed byColumn width) rows ∧ byColumn.flatten.Perm values) ∧
      divide (interleave rows (transposed byColumn width)) width false = .ok byColumn) ∧
    ∀ byColumn, (width = 0 → divide values width byColumn = .error .noFields) ∧
      (1 ≤ width → (∀ rows, values.length ≠ rows * width) →
        divide values width byColumn = .error (.uneven values.length width)) := by
  refine ⟨fun rows given full => ?_, fun byColumn => ⟨fun none => by rw [divide, if_pos none], ?_⟩⟩
  · have turned : values.length = width * rows := by rw [full, Nat.mul_comm]
    have columns := aligned_runs turned
    have back := transposed_transposed columns
    rw [length_runs] at back
    obtain ⟨byRow, rowsKept⟩ := isDivision_of_full full false
    obtain ⟨byColumn, columnsKept⟩ := isDivision_of_full full true
    have kept : (transposed (runs rows width values) rows).flatten.Perm values := by
      rw [← interleave_eq]
      exact (perm_interleave columns).trans (by rw [flatten_runs turned])
    refine ⟨runs width rows values, transposed (runs rows width values) rows, divide_full given full false,
      divide_full given full true, ⟨length_runs .., byRow, rowsKept, (chunks_eq_runs given full).symm⟩,
      ⟨by simp [transposed], byColumn, columnsKept, ?_, kept⟩, ?_⟩
    · rw [back]
      exact columns
    · rw [back, divide_interleave given full, divide_full given full true]
      rfl
  · intro given uneven
    exact divide_uneven given (fun even => uneven _ (Nat.div_mul_cancel even).symm) byColumn

/-- Three items and their prices, row by row or column by column, and one price too few. -/
theorem divide_exactly_prices :
    1 ≤ 2 ∧ ["pen", "ink", "nib", "1", "2", "3"].length = 3 * 2 ∧
      (∃ byRow byColumn, divide ["pen", "ink", "nib", "1", "2", "3"] 2 false = .ok byRow ∧
        divide ["pen", "ink", "nib", "1", "2", "3"] 2 true = .ok byColumn ∧
        byRow = [["pen", "ink"], ["nib", "1"], ["2", "3"]] ∧
        byColumn = [["pen", "1"], ["ink", "2"], ["nib", "3"]] ∧ byColumn.flatten.Perm byRow.flatten) ∧
      divide ["pen", "ink", "nib", "1", "2"] 2 true = .error (.uneven 5 2) := by
  obtain ⟨byRow, byColumn, rows, columns, ⟨-, -, flat, -⟩, ⟨-, -, -, -, kept⟩, -⟩ :=
    (divide_exactly ["pen", "ink", "nib", "1", "2", "3"] 2).1 3 (by decide) rfl
  have uneven := ((divide_exactly ["pen", "ink", "nib", "1", "2"] 2).2 true).2 (by decide)
    (fun rows => by simp only [List.length_cons, List.length_nil]; omega)
  refine ⟨by decide, rfl, ⟨byRow, byColumn, rows, columns, ?_, ?_, ?_⟩, uneven⟩
  · exact (Except.ok.inj rows).symm
  · exact (Except.ok.inj columns).symm
  · rw [flat]
    exact kept

end MetaGraph.Rows

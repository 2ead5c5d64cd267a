/-
What a page yields for an inbound record, said apart from how a step works it
out. A page without a match is left to the policy of the step. Of any other
page the matches are divided into rows, or are one row if the step coalesces,
and each row makes a record in which the fields of the step, and no others,
are overwritten.
-/
import MetaGraph.Proofs.Join.RowDivision
import MetaGraph.Proofs.KeyMap
import MetaGraph.Rest.Step

namespace MetaGraph

/-! ## The records of a page -/

namespace QueryStep

/-- The record `out` is `record` with the fields of the step overwritten by a row, and nothing
else changed. Where a field is named twice its last value counts. -/
structure Overwrites (q : QueryStep) (row : List Json) (record out : Record) : Prop where
  full : row.length = q.fields.length
  kept : ∀ name, name ∉ q.fields → out.get? name = record.get? name
  set : ∀ name, name ∈ q.fields → out.get? name = (q.fields.zip row).reverse.lookup name ∧
    (out.get? name).isSome
  ordered : record.Sorted → out.Sorted

theorem map_fst_zip {fields : List String} {row : List Json} (h : row.length = fields.length) :
    (fields.zip row).map Prod.fst = fields := by
  rw [List.map_fst_zip]; omega

theorem overwrites_join {q : QueryStep} {row : List Json} (h : row.length = q.fields.length)
    (record : Record) : q.Overwrites row record (q.join record row) where
  full := h
  kept name hn := KeyMap.get?_extend_of_notMem record (by rwa [map_fst_zip h])
  set name hn := by
    rw [join, KeyMap.get?_extend]
    cases hl : (q.fields.zip row).reverse.lookup name with
    | some v => exact ⟨rfl, rfl⟩
    | none =>
      rw [← map_fst_zip h, List.mem_map] at hn
      obtain ⟨entry, he, rfl⟩ := hn
      rw [List.lookup_eq_none_iff] at hl
      simpa using hl entry (List.mem_reverse.2 he)
  ordered sorted := KeyMap.sorted_extend sorted _

/-- What a page yields for an inbound record: the records and how many rows they count, or a fault. -/
inductive Yields (q : QueryStep) (record : Record) (address : String) (response : Json) :
    Except RestError (List Record × Nat) → Prop
  | copy : q.path.find response = [] → q.onEmpty = .passThrough →
    Yields q record address response (.ok ([record], 0))
  | nothing : q.path.find response = [] → q.onEmpty = .skip → Yields q record address response (.ok ([], 0))
  | refused : q.path.find response = [] → q.onEmpty = .fail →
    Yields q record address response (.error (.noResult address q.path.source))
  /-- All matches as one list. -/
  | whole {out : Record} : q.path.find response ≠ [] → q.coalesce = true →
    q.Overwrites [.array (q.path.find response)] record out → Yields q record address response (.ok ([out], 1))
  /-- One record for each row, in order. -/
  | rows {rows : List (List Json)} {records : List Record} : q.path.find response ≠ [] → q.coalesce = false →
    Rows.IsDivision (q.path.find response) q.fields.length q.byColumn rows →
    List.Forall₂ (fun row out => q.Overwrites row record out) rows records →
    Yields q record address response (.ok (records, rows.length))
  | uneven : q.path.find response ≠ [] → q.coalesce = false → ¬ q.fields.length ∣ (q.path.find response).length →
    Yields q record address response (.error (.invalidResponse address
      (RowFault.uneven (q.path.find response).length q.fields.length).message))

theorem forall₂_overwrites {q : QueryStep} {rows : List (List Json)} (full : Rows.Aligned rows q.fields.length)
    (record : Record) : List.Forall₂ (fun row out => q.Overwrites row record out) rows (rows.map (q.join record)) := by
  induction rows with
  | nil => exact .nil
  | cons row rows ih =>
    obtain ⟨here, rest⟩ := List.forall_mem_cons.1 full
    exact .cons (overwrites_join here record) (ih rest)

/-- **What a page yields**, if the step has fields, and only one if it coalesces. -/
theorem yields_rowsOf {q : QueryStep} (named : q.fields ≠ []) (single : q.coalesce = true → q.fields.length = 1)
    (record : Record) (address : String) (response : Json) :
    q.Yields record address response (q.rowsOf record address response) := by
  have given : 1 ≤ q.fields.length := List.length_pos_iff.2 named
  unfold rowsOf
  split
  · rename_i bare
    split
    · rename_i policy
      exact .refused bare policy
    · rename_i policy
      exact .nothing bare policy
    · rename_i policy
      exact .copy bare policy
  rename_i matched
  split
  · rename_i gathers
    have full : [Json.array (q.path.find response)].length = q.fields.length := (single gathers).symm
    exact .whole matched gathers (overwrites_join full record)
  rename_i gathers
  have separate : q.coalesce = false := Bool.eq_false_iff.2 gathers
  by_cases full : q.fields.length ∣ (q.path.find response).length
  · have division := Rows.isDivision_of_full (Nat.div_mul_cancel full).symm q.byColumn
    rw [(Rows.divide_eq_ok_iff given).2 division]
    exact .rows matched separate division (forall₂_overwrites division.full record)
  · rw [Rows.divide_uneven given full]
    exact .uneven matched separate full

end QueryStep

end MetaGraph

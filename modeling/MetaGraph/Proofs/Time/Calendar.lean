/-
The day of a month and the month of a day. A day that is named by its month
and its place in it has that month and that place.
-/
import MetaGraph.Time.Calendar
import Mathlib.Algebra.BigOperators.Group.List.Basic
import Mathlib.Algebra.GroupWithZero.Nat

namespace MetaGraph.Date

variable {year : Int} {month day : Nat} {date : Date}

theorem monthDayFrom_take {lengths : List Nat} {i length : Nat} (hi : lengths[i]? = some length) (first : 1 ≤ day)
    (last : day ≤ length) (month : Nat) :
    monthDayFrom month lengths ((lengths.take i).sum + day) = (month + i, day) := by
  induction lengths generalizing i month with
  | nil => cases hi
  | cons l lengths ih =>
    cases i with
    | zero =>
      cases hi
      rw [List.take_zero, List.sum_nil, Nat.zero_add, monthDayFrom, if_pos last, Nat.add_zero]
    | succ i =>
      rw [List.take_succ_cons, List.sum_cons, monthDayFrom, if_neg (by omega),
        show l + (lengths.take i).sum + day - l = (lengths.take i).sum + day by omega, ih hi, Nat.add_right_comm]
      rfl

theorem length_monthLengths (year : Int) : (monthLengths year).length = 12 := rfl

theorem monthLength_le {length : Nat} (h : length ∈ monthLengths year) : length ≤ 31 := by
  unfold monthLengths at h
  cases hl : isLeap year <;> rw [hl] at h <;> revert length <;> decide

/-- What is told of a day by its month. -/
structure OfMonth (year : Int) (month day : Nat) (date : Date) : Prop where
  year_eq : date.year = year
  month_eq : date.month = month
  day_eq : date.day = day
  month_range : 1 ≤ month ∧ month ≤ 12
  day_range : 1 ≤ day ∧ day ≤ 31

theorem ofMonth_of_ofMonthDay? (h : ofMonthDay? year month day = some date) : OfMonth year month day date := by
  unfold ofMonthDay? at h
  dsimp only at h
  split at h
  · rename_i length hl
    split at h
    · rename_i within
      obtain ⟨hm, first, last⟩ := within
      unfold ofOrdinal? at h
      split at h <;> cases h
      have found := monthDayFrom_take hl first last 1
      rw [List.sum_eq_foldl, Nat.add_comm 1, Nat.sub_add_cancel hm] at found
      have place := (List.getElem?_eq_some_iff.1 hl).1
      rw [length_monthLengths] at place
      exact ⟨rfl, congrArg Prod.fst found, congrArg Prod.snd found, ⟨hm, by omega⟩, first,
        Nat.le_trans last (monthLength_le (List.mem_of_getElem? hl))⟩
    · cases h
  · cases h

end MetaGraph.Date

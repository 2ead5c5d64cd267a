/-
Lower case changes letters only. The characters in front of the capital
letters, digits and marks among them, stay as they are, and no other
character becomes one of them. So where a text can be cut at a mark, its
lower case can.
-/
import MetaGraph.Text.Case

namespace MetaGraph.Text

variable {c d : Char}

theorem toNat_ofNat_cases (n : Nat) : (Char.ofNat n).toNat = n ∨ (Char.ofNat n).toNat = 0 := by
  by_cases valid : n.isValidChar
  · rw [Char.ofNat, dif_pos valid]
    exact .inl rfl
  · rw [Char.ofNat, dif_neg valid]
    exact .inr rfl

/-- Neither table leads below the letters. -/
theorem above_of_mem_toLowerRuns : ∀ run ∈ toLowerRuns, (65 : Int) ≤ run.1 + run.2.2.2 := by
  decide +kernel

theorem above_of_mem_toLowerMany : ∀ entry ∈ toLowerMany, ∀ n ∈ entry.2, 65 ≤ n := by
  decide

theorem le_shiftBy_toLowerRuns {n : Nat} (h : 65 ≤ n) : 65 ≤ shiftBy toLowerRuns n := by
  unfold shiftBy
  split
  · rename_i lo hi step distance found
    have above := above_of_mem_toLowerRuns _ (List.mem_of_find?_eq_some found)
    have inside := List.find?_some found
    simp only [Bool.and_eq_true, decide_eq_true_eq] at inside above
    omega
  · exact h

/-- Of the ASCII characters only capital letters are changed, and these stay above the marks. -/
theorem toLower_ascii : ∀ n < 128, (Char.ofNat n).toLower = Char.ofNat n ∨
    65 ≤ (Char.ofNat n).toLower.toNat ∧ 65 ≤ (Char.ofNat n).toNat := by
  decide +kernel

theorem ne_ofNat (low : 0 < d.toNat) (h : d.toNat < 65) {n : Nat} (above : 65 ≤ n) : d ≠ Char.ofNat n := by
  rintro rfl
  rcases toNat_ofNat_cases n with same | zero <;> omega

/-- What is behind the marks is not changed into one of them. -/
theorem mem_lowerChar_iff (low : 0 < d.toNat) (h : d.toNat < 65) : d ∈ lowerChar c ↔ d = c := by
  rw [lowerChar]
  split
  · rename_i ascii
    rw [List.mem_singleton]
    rcases toLower_ascii c.toNat ascii with same | ⟨above, above'⟩ <;> rw [Char.ofNat_toNat] at *
    · rw [same]
    · exact iff_of_false (by rintro rfl; omega) (by rintro rfl; omega)
  · rename_i wide
    refine iff_of_false (fun hd => ?_) (by rintro rfl; omega)
    rw [mapChar] at hd
    split at hd
    · rename_i ns found
      obtain ⟨n, hn, rfl⟩ := List.mem_map.1 hd
      obtain ⟨front, back, table, -⟩ := List.lookup_eq_some_iff.1 found
      exact ne_ofNat low h (above_of_mem_toLowerMany (c.toNat, ns) (by simp [table]) n hn) rfl
    · exact ne_ofNat low h (le_shiftBy_toLowerRuns (by omega)) (List.mem_singleton.1 hd)

theorem mem_lowerFrom_iff (low : 0 < d.toNat) (h : d.toNat < 65) (before cs : List Char) :
    d ∈ lowerFrom before cs ↔ d ∈ cs := by
  induction cs generalizing before with
  | nil => exact Iff.rfl
  | cons c cs ih =>
    have here : d ∈ (if c = 'Σ' then
        if leadsToCased before && !leadsToCased cs then ['ς'] else ['σ'] else lowerChar c) ↔ d = c := by
      split
      · rename_i sigma
        subst sigma
        refine iff_of_false ?_ (by rintro rfl; exact absurd h (by decide))
        split <;> rw [List.mem_singleton] <;> rintro rfl <;> exact absurd h (by decide)
      · exact mem_lowerChar_iff low h
    rw [lowerFrom, List.mem_append, List.mem_cons, here, ih]

/-- A mark stands in the lower case of a text exactly if it stands in the text. -/
theorem mem_lower_iff (low : 0 < d.toNat) (h : d.toNat < 65) (s : String) :
    d ∈ (lower s).toList ↔ d ∈ s.toList := by
  rw [lower, String.toList_ofList, mem_lowerFrom_iff low h]

end MetaGraph.Text

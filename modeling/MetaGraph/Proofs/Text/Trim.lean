/-
Trimming. What is trimmed stands between the blanks that were cut off, and it
is the only text without blanks at its ends that does.
-/
import Mathlib.Data.List.TakeWhile
import MetaGraph.Text.Blank

namespace MetaGraph.Text

/-- Nothing but blanks. -/
def AllBlank (cs : List Char) : Prop := ∀ c ∈ cs, isBlank c = true

/-- No blank at either end. -/
def NoOuterBlank (cs : List Char) : Prop :=
  (∀ c ∈ cs.head?, isBlank c = false) ∧ ∀ c ∈ cs.getLast?, isBlank c = false

-- Characters are finitely many, and an instance found by inference may go through all of them.
instance (cs : List Char) : Decidable (AllBlank cs) := List.decidableBAll _ cs
instance (cs : List Char) : Decidable (NoOuterBlank cs) :=
  have (o : Option Char) : Decidable (∀ c ∈ o, isBlank c = false) := o.decidableForallMem
  inferInstanceAs (Decidable (_ ∧ _))

variable {cs front back : List Char}

theorem toNat_of_isDigit {c : Char} (h : c.isDigit = true) : 48 ≤ c.toNat ∧ c.toNat ≤ 57 := by
  simpa [Char.isDigit, UInt32.le_iff_toNat_le] using h

theorem isBlank_of_isDigit {c : Char} (h : c.isDigit = true) : isBlank c = false := by
  have bounds := toNat_of_isDigit h
  rw [Bool.eq_false_iff]
  intro blank
  simp only [isBlank, inRanges, blankRanges, List.any_cons, List.any_nil, Bool.or_eq_true,
    Bool.and_eq_true, decide_eq_true_eq, Bool.false_eq_true, or_false] at blank
  omega

theorem trimFront_append (blanks : AllBlank front) (h : ∀ c ∈ cs.head?, isBlank c = false) :
    trimFront (front ++ cs) = cs := by
  rw [trimFront, List.dropWhile_append_of_pos blanks]
  cases cs with
  | nil => rfl
  | cons c cs => exact trimFront_of_not_blank (h c rfl)

theorem exists_trimFront (cs : List Char) : ∃ front, AllBlank front ∧ cs = front ++ trimFront cs :=
  ⟨cs.takeWhile isBlank, fun _ hc => List.mem_takeWhile_imp hc, List.takeWhile_append_dropWhile.symm⟩

theorem AllBlank.reverse (h : AllBlank cs) : AllBlank cs.reverse := fun c hc => h c (List.mem_reverse.1 hc)

/-- What is trimmed stands between blanks. -/
theorem exists_trimChars (cs : List Char) :
    ∃ front back, AllBlank front ∧ AllBlank back ∧ cs = front ++ trimChars cs ++ back := by
  obtain ⟨front, blank, whole⟩ := exists_trimFront cs
  obtain ⟨back, blank', rest⟩ := exists_trimFront (trimFront cs).reverse
  refine ⟨front, back.reverse, blank, blank'.reverse, ?_⟩
  rw [List.append_assoc, trimChars, ← List.reverse_append, ← rest, List.reverse_reverse]
  exact whole

theorem length_trimChars_le (cs : List Char) : (trimChars cs).length ≤ cs.length := by
  obtain ⟨front, back, -, -, whole⟩ := exists_trimChars cs
  have lengths := congrArg List.length whole
  simp only [List.length_append] at lengths
  omega

/-- Trimming cuts off the blanks around a text that has none at its ends. -/
theorem trimChars_append (blank : AllBlank front) (blank' : AllBlank back) (h : NoOuterBlank cs) :
    trimChars (front ++ cs ++ back) = cs := by
  have ahead : trimFront (front ++ (cs ++ back)) = trimFront (cs ++ back) :=
    List.dropWhile_append_of_pos blank
  rw [List.append_assoc, trimChars, ahead]
  cases cs with
  | nil =>
    have none : trimFront back = [] := List.dropWhile_eq_nil_iff.2 blank'
    rw [List.nil_append, none]
    rfl
  | cons c cs =>
    have last : ∀ c' ∈ (c :: cs).reverse.head?, isBlank c' = false := List.head?_reverse ▸ h.2
    rw [List.cons_append, trimFront_of_not_blank (h.1 c rfl), ← List.cons_append, List.reverse_append,
      trimFront_append blank'.reverse last, List.reverse_reverse]

theorem trimChars_of_noOuterBlank (h : NoOuterBlank cs) : trimChars cs = cs := by
  have none : AllBlank [] := nofun
  simpa using trimChars_append none none h

end MetaGraph.Text

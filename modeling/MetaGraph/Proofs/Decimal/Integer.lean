/-
Integers that are written are read again.
-/
import MetaGraph.Decimal.Reader
import MetaGraph.Json.Printer
import MetaGraph.Proofs.Text.Trim

namespace MetaGraph.Decimal

theorem digitsValue_toDigits (n : Nat) : digitsValue (Nat.toDigits 10 n) = n := by
  have same : digitsValue (Nat.toDigits 10 n) = Nat.ofDigitChars 10 (Nat.toDigits 10 n) 0 := by
    simp only [digitsValue, Nat.ofDigitChars, Nat.mul_comm]
  rw [same, Nat.ofDigitChars_ten_toDigits]

theorem isDigit_of_mem_toDigits {n : Nat} {c : Char} (h : c ∈ Nat.toDigits 10 n) : c.isDigit = true :=
  Nat.isDigit_of_mem_toDigits (by decide) (by decide) h

theorem any_not_isDigit {ds : List Char} (given : ds ≠ []) (digits : ∀ c ∈ ds, c.isDigit = true) :
    ¬ (ds = [] ∨ ds.any (fun c => !c.isDigit) = true) := by
  rintro (h | h)
  · exact given h
  · obtain ⟨c, hc, h⟩ := List.any_eq_true.1 h
    rw [digits c hc] at h
    cases h

/-- Digits are read as the number they write. -/
theorem integer_digits {lo hi : Int} {ds : List Char} (given : ds ≠ []) (digits : ∀ c ∈ ds, c.isDigit = true)
    (hl : lo ≤ digitsValue ds) (hh : digitsValue ds ≤ hi) :
    integer lo hi ds = .ok (digitsValue ds : Int) := by
  have plain := any_not_isDigit given digits
  obtain ⟨c, cs, rfl⟩ := List.exists_cons_of_ne_nil given
  have digit := digits c List.mem_cons_self
  unfold integer
  split
  · rename_i he
    cases he
  · rename_i he
    cases he
    cases digit
  · rename_i he
    cases he
    cases digit
  · simp only [if_neg plain, Bool.false_eq_true, if_false]
    rw [if_neg (by omega), if_neg (by omega)]

theorem integer_intText {lo hi n : Int} (hl : lo ≤ n) (hh : n ≤ hi) :
    integer lo hi (Json.intText n) = .ok n := by
  have value := digitsValue_toDigits n.natAbs
  by_cases h : n < 0
  · have plain := any_not_isDigit Nat.toDigits_ne_nil fun c (hc : c ∈ Nat.toDigits 10 n.natAbs) =>
      isDigit_of_mem_toDigits hc
    have back : -(n.natAbs : Int) = n := by omega
    simp only [Json.intText, if_pos h, integer, if_pos (show lo < 0 by omega), if_neg plain, value,
      if_true, back]
    rw [if_neg (by omega), if_neg (by omega)]
  · have back : (n.natAbs : Int) = n := by omega
    have read : integer lo hi (Nat.toDigits 10 n.natAbs) = .ok _ :=
      integer_digits Nat.toDigits_ne_nil (fun c hc => isDigit_of_mem_toDigits hc) (by omega) (by omega)
    rw [Json.intText, if_neg h, read, value, back]

/-- Two integers that are written alike are the same. -/
theorem intText_inj {n n' : Int} (h : Json.intText n = Json.intText n') : n = n' := by
  have read := integer_intText (Int.min_le_left n n') (Int.le_max_left n n')
  have read' := integer_intText (Int.min_le_right n n') (Int.le_max_right n n')
  rw [h, read'] at read
  exact (Except.ok.inj read).symm

/-- A decimal form: digits, with a sign in front of them or without one. -/
inductive Form : List Char → Int → Prop
  | plain {ds : List Char} : ds ≠ [] → (∀ c ∈ ds, c.isDigit = true) → Form ds (digitsValue ds)
  | plus {ds : List Char} : ds ≠ [] → (∀ c ∈ ds, c.isDigit = true) → Form ('+' :: ds) (digitsValue ds)
  | minus {ds : List Char} : ds ≠ [] → (∀ c ∈ ds, c.isDigit = true) → Form ('-' :: ds) (-digitsValue ds)

/-- What is read out of the digits of a form. -/
theorem body_eq_ok_iff {lo hi value n : Int} {ds : List Char} :
    (if ds = [] ∨ ds.any (fun c => !c.isDigit) = true then .error .notADigit
      else if hi < value then .error .tooLarge else if value < lo then .error .tooSmall else .ok value :
        Except IntegerFault Int) = .ok n ↔
      (ds ≠ [] ∧ ∀ c ∈ ds, c.isDigit = true) ∧ value = n ∧ lo ≤ n ∧ n ≤ hi := by
  by_cases digits : ds ≠ [] ∧ ∀ c ∈ ds, c.isDigit = true
  · rw [if_neg (any_not_isDigit digits.1 digits.2)]
    constructor
    · intro h
      repeat' split at h
      all_goals cases h
      exact ⟨digits, rfl, by omega, by omega⟩
    · rintro ⟨-, rfl, low, high⟩
      rw [if_neg (by omega), if_neg (by omega)]
  · have other : ds = [] ∨ ds.any (fun c => !c.isDigit) = true := by
      simpa [Classical.or_iff_not_imp_left] using digits
    rw [if_pos other]
    exact iff_of_false nofun fun h => digits h.1

/-- A sign is no digit. -/
theorem form_plus_iff {ds : List Char} {n : Int} :
    Form ('+' :: ds) n ↔ (ds ≠ [] ∧ ∀ c ∈ ds, c.isDigit = true) ∧ (digitsValue ds : Int) = n := by
  constructor
  · intro form
    cases form with
    | plain given digits => cases digits '+' List.mem_cons_self
    | plus given digits => exact ⟨⟨given, digits⟩, rfl⟩
  · rintro ⟨⟨given, digits⟩, rfl⟩
    exact .plus given digits

theorem form_minus_iff {ds : List Char} {n : Int} :
    Form ('-' :: ds) n ↔ (ds ≠ [] ∧ ∀ c ∈ ds, c.isDigit = true) ∧ (-digitsValue ds : Int) = n := by
  constructor
  · intro form
    cases form with
    | plain given digits => cases digits '-' List.mem_cons_self
    | minus given digits => exact ⟨⟨given, digits⟩, rfl⟩
  · rintro ⟨⟨given, digits⟩, rfl⟩
    exact .minus given digits

/-- Exactly the decimal forms of the integers in a range are read. -/
theorem integer_eq_ok_iff {lo hi n : Int} (hl : lo < 0) {cs : List Char} :
    integer lo hi cs = .ok n ↔ Form cs n ∧ lo ≤ n ∧ n ≤ hi := by
  unfold integer
  split
  · refine iff_of_false nofun fun ⟨form, _⟩ => ?_
    cases form
    contradiction
  · simp only [Bool.false_eq_true, if_false, form_plus_iff, and_assoc]
    exact body_eq_ok_iff.trans (by rw [and_assoc])
  · simp only [if_pos hl, if_true, form_minus_iff, and_assoc]
    exact body_eq_ok_iff.trans (by rw [and_assoc])
  · rename_i plus minus
    have form : Form cs n ↔ (cs ≠ [] ∧ ∀ c ∈ cs, c.isDigit = true) ∧ (digitsValue cs : Int) = n := by
      constructor
      · intro form
        cases form with
        | plain given digits => exact ⟨⟨given, digits⟩, rfl⟩
        | plus => exact absurd rfl (plus _)
        | minus => exact absurd rfl (minus _)
      · rintro ⟨⟨given, digits⟩, rfl⟩
        exact .plain given digits
    simp only [Bool.false_eq_true, if_false, form, and_assoc]
    exact body_eq_ok_iff.trans (by rw [and_assoc])

theorem ofList_intText_ne_empty (n : Int) : String.ofList (Json.intText n) ≠ "" := by
  intro h
  have none : Json.intText n = [] := by simpa using congrArg String.toList h
  rw [Json.intText] at none
  split at none
  · cases none
  · exact Nat.toDigits_ne_nil none

/-- No blanks stand around a number. -/
theorem trim_intText (n : Int) :
    Text.trim (String.ofList (Json.intText n)) = String.ofList (Json.intText n) := by
  have plain : ∀ c ∈ Json.intText n, Text.isBlank c = false := by
    intro c hc
    rw [Json.intText] at hc
    split at hc
    · rcases List.mem_cons.1 hc with rfl | hc
      · decide
      · exact Text.isBlank_of_isDigit (isDigit_of_mem_toDigits hc)
    · exact Text.isBlank_of_isDigit (isDigit_of_mem_toDigits hc)
  have ends : Text.NoOuterBlank (Json.intText n) :=
    ⟨fun c hc => plain c (List.mem_of_mem_head? hc), fun c hc => plain c (List.mem_of_mem_getLast? hc)⟩
  rw [Text.trim, String.toList_ofList, Text.trimChars_of_noOuterBlank ends]

end MetaGraph.Decimal

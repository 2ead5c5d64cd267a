/-
What a text looks like that reads as a number. Such a text is written
without quotes in a CSV file, so it must hold nothing that a reader of the
file takes for the end of a field.
-/
import MetaGraph.Csv.Writer

namespace MetaGraph.Decimal

/-- Characters of numbers and of their names. -/
def isNumericChar (c : Char) : Bool := c.isAlphanum || c == '+' || c == '-' || c == '.'

theorem isNumericChar_of_isAlphanum {c : Char} (h : (c.isAlpha || c.isDigit) = true) :
    isNumericChar c = true := by
  have alphanum : c.isAlphanum = true := h
  rw [isNumericChar, alphanum, Bool.true_or, Bool.true_or, Bool.true_or]

theorem isNumericChar_of_isDigit {c : Char} (h : c.isDigit = true) : isNumericChar c = true :=
  isNumericChar_of_isAlphanum (by rw [h, Bool.or_true])

theorem isNumericChar_of_all {cs : List Char} (h : cs.all Char.isDigit = true) :
    ∀ c ∈ cs, isNumericChar c = true :=
  fun c hc => isNumericChar_of_isDigit (List.all_eq_true.1 h c hc)

/-- A character whose lower case form is a letter is one itself. -/
theorem isAlpha_of_toLower {c : Char} (h : c.toLower.isAlpha = true) : c.isAlpha = true := by
  unfold Char.toLower at h
  split at h
  · rename_i hu
    have upper : c.isUpper = true := decide_eq_true hu
    change (c.isUpper || c.isLower) = true
    rw [upper, Bool.true_or]
  · exact h

theorem isNumericChar_of_name {body name : List Char} (h : body.map Char.toLower = name)
    (hn : name.all Char.isAlpha = true) : ∀ c ∈ body, isNumericChar c = true := by
  intro c hc
  have hl : c.toLower ∈ name := h ▸ List.mem_map_of_mem hc
  have := isAlpha_of_toLower (List.all_eq_true.1 hn _ hl)
  exact isNumericChar_of_isAlphanum (by rw [this, Bool.true_or])

/-- An exponent holds a mark, a sign and digits. -/
theorem isNumericChar_of_exponent {cs : List Char} (h : (exponent? cs).isSome = true) :
    ∀ c ∈ cs, isNumericChar c = true := by
  cases cs with
  | nil => simp
  | cons e cs =>
    simp only [exponent?] at h
    split at h
    · rename_i he
      have mark : isNumericChar e = true := by rcases he with rfl | rfl <;> rfl
      have digits {negative : Bool} {ds : List Char}
          (hd : (if ds = [] ∨ (ds.any fun c => !c.isDigit) = true then none
            else some (if negative then -(digitsValue ds : Int) else digitsValue ds)).isSome = true) :
          ∀ c ∈ ds, isNumericChar c = true := by
        split at hd
        · cases hd
        rename_i hn
        refine isNumericChar_of_all ?_
        simpa using fun hne => hn (.inr hne)
      rw [List.forall_mem_cons]
      refine ⟨mark, ?_⟩
      split at h
      · exact List.forall_mem_cons.2 ⟨rfl, digits h⟩
      · exact List.forall_mem_cons.2 ⟨rfl, digits h⟩
      · exact digits h
    · cases h

/-- A mantissa takes its digits and a point from the front of a text. -/
theorem isNumericChar_of_mantissa {cs digits rest : List Char} {places : Nat}
    (h : mantissa cs = (digits, places, rest)) (hr : ∀ c ∈ rest, isNumericChar c = true) :
    ∀ c ∈ cs, isNumericChar c = true := by
  have whole : ∀ c ∈ cs.takeWhile Char.isDigit, isNumericChar c = true :=
    isNumericChar_of_all List.all_takeWhile
  have parts := List.takeWhile_append_dropWhile (p := Char.isDigit) (l := cs)
  simp only [mantissa] at h
  rw [← parts, List.forall_mem_append]
  refine ⟨whole, ?_⟩
  split at h
  · rename_i tail hd
    cases h
    rw [hd, List.forall_mem_cons,
      ← List.takeWhile_append_dropWhile (p := Char.isDigit) (l := tail), List.forall_mem_append]
    exact ⟨rfl, isNumericChar_of_all List.all_takeWhile, hr⟩
  · cases h
    exact hr

/-- A number after its sign. -/
def unsigned? (negative : Bool) (body : List Char) : Option Binary64 :=
  let name := body.map Char.toLower
  if name = ['i', 'n', 'f'] ∨ name = ['i', 'n', 'f', 'i', 'n', 'i', 't', 'y'] then
    some (Binary64.infinity negative)
  else if name = ['n', 'a', 'n'] then some Binary64.nan
  else
    let (digits, places, rest) := mantissa body
    if digits = [] then none
    else
      match exponent? rest with
      | some e => some (Binary64.ofDecimal negative (digitsValue digits) (e - places))
      | none => none

/-- The sign in front of a text, and what follows it. -/
def signed : List Char → Bool × List Char
  | '-' :: rest => (true, rest)
  | '+' :: rest => (false, rest)
  | rest => (false, rest)

theorem binary64?_eq (cs : List Char) : binary64? cs = unsigned? (signed cs).1 (signed cs).2 := rfl

theorem isNumericChar_of_unsigned {negative : Bool} {body : List Char}
    (h : (unsigned? negative body).isSome = true) : ∀ c ∈ body, isNumericChar c = true := by
  simp only [unsigned?] at h
  split at h
  · rename_i hn
    rcases hn with hn | hn
    · exact isNumericChar_of_name hn rfl
    · exact isNumericChar_of_name hn rfl
  split at h
  · rename_i hn
    exact isNumericChar_of_name hn rfl
  split at h
  · cases h
  have exponent : (exponent? (mantissa body).2.2).isSome = true := by
    cases he : exponent? (mantissa body).2.2 with
    | none => simp [he] at h
    | some e => rfl
  exact isNumericChar_of_mantissa rfl (isNumericChar_of_exponent exponent)

/-- **A number is written in letters, digits, signs and points.** -/
theorem isNumericChar_of_isNumeric {cs : List Char} (h : isNumeric cs = true) :
    cs ≠ [] ∧ ∀ c ∈ cs, isNumericChar c = true := by
  have nonempty : cs ≠ [] := by
    rintro rfl
    cases h
  refine ⟨nonempty, ?_⟩
  rw [isNumeric, binary64?_eq] at h
  have body := isNumericChar_of_unsigned h
  unfold signed at body
  split at body
  · exact List.forall_mem_cons.2 ⟨rfl, body⟩
  · exact List.forall_mem_cons.2 ⟨rfl, body⟩
  · exact body

end MetaGraph.Decimal

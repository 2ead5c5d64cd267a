/-
How texts nest. A nested text closes its quotes, each bracket and parenthesis
in it is closed by one of its own kind, and a bar stands in it only between
them, so it is closed at every depth. What the readers of names, texts and
numbers take from the front of a text is nested.
-/
import Mathlib.Data.List.TakeDrop
import MetaGraph.Proofs.JsonPath.Division

namespace MetaGraph.JsonPath

/-- `Nested bars cs rest`: what stands in `cs` in front of `rest` closes its quotes, its brackets and
its parentheses. Between these anything nested may stand, and outside of them bars only if `bars`
says so. -/
inductive Nested : Bool → List Char → List Char → Prop
  | done (bars : Bool) (cs : List Char) : Nested bars cs cs
  | plain {bars : Bool} {c : Char} {cs rest : List Char} :
    IsPlain c → Nested bars cs rest → Nested bars (c :: cs) rest
  | bar {cs rest : List Char} : Nested true cs rest → Nested true ('|' :: cs) rest
  | quoted {bars : Bool} {q : Char} {cs back rest : List Char} :
    IsQuote q → Quoted q cs back → Nested bars back rest → Nested bars (q :: cs) rest
  | brackets {bars : Bool} {cs back rest : List Char} :
    Nested true cs (']' :: back) → Nested bars back rest → Nested bars ('[' :: cs) rest
  | parens {bars : Bool} {cs back rest : List Char} :
    Nested true cs (')' :: back) → Nested bars back rest → Nested bars ('(' :: cs) rest

variable {b : Bool} {c : Char} {cs back rest rest' : List Char}

namespace Nested

theorem trans (h : Nested b cs back) (h' : Nested b back rest) : Nested b cs rest := by
  induction h with
  | done => exact h'
  | plain hc _ ih => exact .plain hc (ih h')
  | bar _ ih => exact .bar (ih h')
  | quoted hq text _ ih => exact .quoted hq text (ih h')
  | brackets inside _ _ ih => exact .brackets inside (ih h')
  | parens inside _ _ ih => exact .parens inside (ih h')

theorem append (h : Nested b cs rest) (more : List Char) : Nested b (cs ++ more) (rest ++ more) := by
  induction h with
  | done b cs => exact .done b (cs ++ more)
  | plain hc _ ih => exact .plain hc ih
  | bar _ ih => exact .bar ih
  | quoted hq text _ ih => exact .quoted hq (text.append more) ih
  | brackets _ _ inside ih => exact .brackets inside ih
  | parens _ _ inside ih => exact .parens inside ih

/-- Where bars may stand, none have to. -/
theorem withBars (h : Nested b cs rest) : Nested true cs rest := by
  induction h with
  | done b cs => exact .done true cs
  | plain hc _ ih => exact .plain hc ih
  | bar _ ih => exact .bar ih
  | quoted hq text _ ih => exact .quoted hq text ih
  | brackets inside _ _ ih => exact .brackets inside ih
  | parens inside _ _ ih => exact .parens inside ih

/-- What is nested leads back to the depth from which it is scanned. -/
theorem passes (h : Nested b cs rest) {d : Nat} (hd : b = true → 0 < d) : Passes d cs d rest := by
  induction h generalizing d with
  | done b cs => exact .done d cs
  | plain hc _ ih => exact .plain hc (ih hd)
  | bar _ ih => exact .bar (hd rfl) (ih hd)
  | quoted hq text _ ih => exact .quoted hq text (ih hd)
  | brackets _ _ inside ih =>
    exact .opening (.inl rfl) ((inside fun _ => Nat.succ_pos d).trans (.closing (.inl rfl) (ih hd)))
  | parens _ _ inside ih =>
    exact .opening (.inr rfl) ((inside fun _ => Nat.succ_pos d).trans (.closing (.inr rfl) (ih hd)))

end Nested

/-! ## Runs of plain characters -/

/-- The characters that quote, nest or divide. -/
def marks : List Char := ['\'', '"', '[', '(', ']', ')', '|']

theorem isPlain_iff : IsPlain c ↔ c ∉ marks := by
  simp [IsPlain, IsQuote, IsOpening, IsClosing, marks, and_assoc]

/-- A class of characters that holds no mark. -/
def PlainClass (p : Char → Bool) : Prop := ∀ c ∈ marks, p c = false

-- Only the marks are gone through, and not all characters.
instance (p : Char → Bool) : Decidable (PlainClass p) := List.decidableBAll _ marks

theorem PlainClass.isPlain {p : Char → Bool} (h : PlainClass p) (hc : p c = true) : IsPlain c := by
  rw [isPlain_iff]
  intro hm
  rw [h c hm] at hc
  cases hc

theorem nested_dropWhile {p : Char → Bool} (h : PlainClass p) (b : Bool) (cs : List Char) :
    Nested b cs (cs.dropWhile p) := by
  induction cs with
  | nil => exact .done b []
  | cons c cs ih =>
    rw [List.dropWhile_cons]
    split
    · exact .plain (h.isPlain ‹_›) ih
    · exact .done b _

/-- A run that is told by its length. -/
theorem nested_dropRun {p : Char → Bool} (h : PlainClass p) (b : Bool) (cs : List Char) :
    Nested b cs (cs.drop (cs.takeWhile p).length) := by
  have run : cs.drop (cs.takeWhile p).length = cs.dropWhile p :=
    (congrArg (List.drop _) List.takeWhile_append_dropWhile.symm).trans List.drop_left
  rw [run]
  exact nested_dropWhile h b cs

theorem nested_skipBlanks (b : Bool) (cs : List Char) : Nested b cs (Json.skipBlanks cs) :=
  nested_dropWhile (by decide) b cs

theorem nested_of_skipBlanks (h : Json.skipBlanks cs = rest) : Nested b cs rest := by
  rw [← h]
  exact nested_skipBlanks b cs

theorem plainClass_nameChar : PlainClass isNameChar := by decide

theorem plainClass_digit : PlainClass Char.isDigit := by decide

/-! ## Names, texts and numbers -/

/-- What a reader takes from the front of a text is nested. -/
def TakesNested {α : Type} (bars : Bool) (r : Scan α) : Prop :=
  ∀ {cs : List Char} {x : α} {rest : List Char}, r cs = some (x, rest) → Nested bars cs rest

theorem eq_cons_of_after? {mark : Char} (h : after? mark cs = some rest) : cs = mark :: rest := by
  cases cs with
  | nil => cases h
  | cons d cs =>
    rw [after?] at h
    split at h
    · cases h
      rw [‹d = mark›]
    · cases h

theorem name?_nested : TakesNested b name? := by
  intro cs x rest h
  cases cs with
  | nil => cases h
  | cons c cs =>
    rw [name?] at h
    split at h
    · rename_i start
      cases h
      have first : isNameChar c = true := by rw [isNameChar, start, Bool.true_or]
      exact .plain (plainClass_nameChar.isPlain first) (nested_dropWhile plainClass_nameChar b cs)
    · cases h

section Quotes

variable {q : Char}

theorem quoted_hexDigit (hq : IsQuote q) {n : Nat} (h : Decimal.hexDigit? c = some n)
    (text : Quoted q cs rest) : Quoted q (c :: cs) rest := by
  have other (mark : Char) (none : Decimal.hexDigit? mark = none) : c ≠ mark := by
    rintro rfl
    rw [none] at h
    cases h
  have mark : Decimal.hexDigit? q = none := by rcases hq with rfl | rfl <;> decide
  exact .char (other q mark) (other '\\' (by decide)) text

theorem quoted_hex4? (hq : IsQuote q) {n : Nat} (h : Json.hex4? cs = some (n, back)) (text : Quoted q back rest) :
    Quoted q cs rest := by
  unfold Json.hex4? at h
  split at h
  · simp only [Option.bind_eq_bind, Option.bind_eq_some_iff, Option.some.injEq, Prod.mk.injEq] at h
    obtain ⟨_, first, _, second, _, third, _, fourth, -, rfl⟩ := h
    exact quoted_hexDigit hq first (quoted_hexDigit hq second (quoted_hexDigit hq third
      (quoted_hexDigit hq fourth text)))
  · cases h

theorem quoted_unicodeEscape? (hq : IsQuote q) {x : Char} (h : Json.unicodeEscape? cs = some (x, back))
    (text : Quoted q back rest) : Quoted q cs rest := by
  simp only [Json.unicodeEscape?, Option.bind_eq_bind, Option.bind_eq_some_iff, Prod.exists] at h
  obtain ⟨n, rest₁, first, h⟩ := h
  refine quoted_hex4? hq first ?_
  split at h
  · split at h
    · simp only [Option.bind_eq_some_iff, Prod.exists, Option.ite_none_right_eq_some, Option.some.injEq,
        Prod.mk.injEq] at h
      obtain ⟨m, rest₂, second, -, -, rfl⟩ := h
      exact .escape 'u' (quoted_hex4? hq second text)
    · cases h
  · simp only [Option.ite_none_left_eq_some, Option.some.injEq, Prod.mk.injEq] at h
    obtain ⟨-, -, rfl⟩ := h
    exact text

theorem quoted_of_quotedRest? (hq : IsQuote q) {fuel : Nat} {acc : List Char} {s : String}
    (h : quotedRest? q fuel acc cs = some (s, rest)) : Quoted q cs rest := by
  induction fuel generalizing acc cs with
  | zero => cases h
  | succ fuel ih =>
    unfold quotedRest? at h
    split at h
    · cases h
    · simp only [Option.bind_eq_bind, Option.bind_eq_some_iff, Prod.exists] at h
      obtain ⟨x, back, escape, h⟩ := h
      exact .escape 'u' (quoted_unicodeEscape? hq escape (ih h))
    · split at h
      · exact .escape _ (ih h)
      split at h
      · cases h
      · simp only [Option.bind_eq_bind, Option.bind_eq_some_iff] at h
        obtain ⟨x, -, h⟩ := h
        exact .escape _ (ih h)
    · split at h
      · rename_i ends
        cases h
        exact ends ▸ .close rest
      rename_i other
      split at h
      · cases h
      · rename_i allowed
        exact .char other (fun backslash => allowed (.inr backslash)) (ih h)

theorem quoted?_nested : TakesNested b quoted? := by
  intro cs x rest h
  unfold quoted? at h
  split at h
  · exact .quoted (.inl rfl) (quoted_of_quotedRest? (.inl rfl) h) (.done b rest)
  · exact .quoted (.inr rfl) (quoted_of_quotedRest? (.inr rfl) h) (.done b rest)
  · cases h

end Quotes

theorem intText?_nested : TakesNested b intText? := by
  intro cs x rest h
  unfold intText? at h
  split at h
  · cases h
    exact .plain (by decide) (.done b rest)
  · cases h
  · dsimp only at h
    split at h
    · cases h
    · cases h
      exact .plain (by decide) (nested_dropRun plainClass_digit b _)
  · dsimp only at h
    split at h
    · cases h
    · cases h
      exact nested_dropRun plainClass_digit b _

theorem index?_nested : TakesNested b index? := by
  intro cs x rest h
  simp only [index?, Option.bind_eq_bind, Option.bind_eq_some_iff, Prod.exists] at h
  obtain ⟨text, back, digits, h⟩ := h
  simp only [Option.ite_none_right_eq_some] at h
  obtain ⟨-, ⟨⟩⟩ := h
  exact intText?_nested digits

theorem nested_fractionText (b : Bool) (cs : List Char) : Nested b cs (fractionText cs).2 := by
  unfold fractionText
  split
  · dsimp only
    split
    · exact .done b _
    · exact .plain (by decide) (nested_dropRun plainClass_digit b _)
  · exact .done b _

theorem nested_exponentText (b : Bool) (cs : List Char) : Nested b cs (exponentText cs).2 := by
  unfold exponentText
  split
  · rename_i e cs
    split
    · rename_i mark
      have plain : IsPlain e := by rcases mark with rfl | rfl <;> decide
      have digits (sign body : List Char) (signed : Nested b cs body) :
          Nested b (e :: cs) (if body.takeWhile Char.isDigit = [] then ([], e :: cs)
            else (e :: sign ++ body.takeWhile Char.isDigit,
              body.drop (body.takeWhile Char.isDigit).length)).2 := by
        split
        · exact .done b _
        · exact .plain plain (signed.trans (nested_dropRun plainClass_digit b body))
      dsimp only
      split
      · exact digits ['-'] _ (.plain (by decide) (.done b _))
      · exact digits ['+'] _ (.plain (by decide) (.done b _))
      · exact digits [] cs (.done b cs)
    · exact .done b _
  · exact .done b _

theorem numeral?_nested : TakesNested b numeral? := by
  intro cs x rest h
  -- What stands behind the whole number is read alike whatever that number is.
  have behind (back : List Char) : Nested b back (exponentText (fractionText back).2).2 :=
    (nested_fractionText b back).trans (nested_exponentText b _)
  simp only [numeral?, Option.bind_eq_bind] at h
  split at h
  · simp only [Option.bind_some, Option.bind_eq_some_iff] at h
    obtain ⟨value, -, ⟨⟩⟩ := h
    exact .plain (by decide) (.plain (by decide) (behind _))
  · simp only [Option.bind_eq_some_iff, Prod.exists] at h
    obtain ⟨whole, back, digits, value, -, ⟨⟩⟩ := h
    exact (intText?_nested digits).trans (behind back)

/-- A text without marks. -/
def AllPlain (cs : List Char) : Prop := ∀ c ∈ cs, IsPlain c

instance (cs : List Char) : Decidable (AllPlain cs) := List.decidableBAll _ cs

theorem nested_append {front : List Char} (plain : AllPlain front) (b : Bool) (rest : List Char) :
    Nested b (front ++ rest) rest := by
  induction front with
  | nil => exact .done b rest
  | cons c front ih =>
    obtain ⟨first, later⟩ := List.forall_mem_cons.1 plain
    exact .plain first (ih later)

theorem nested_afterWord? {word : String} (plain : AllPlain word.toList)
    (h : Json.afterWord? word cs = some rest) : Nested b cs rest := by
  unfold Json.afterWord? at h
  split at h
  · rename_i front
    have whole := List.take_append_drop word.length cs
    rw [front, Option.some.inj h] at whole
    rw [← whole]
    exact nested_append plain b rest
  · cases h

theorem literal?_nested : TakesNested b literal? := by
  intro cs x rest h
  unfold literal? at h
  split at h
  · rename_i text
    cases h
    exact quoted?_nested text
  split at h
  · rename_i word
    cases h
    exact nested_afterWord? (by decide) word
  · rename_i word _
    cases h
    exact nested_afterWord? (by decide) word
  · rename_i word _ _
    cases h
    exact nested_afterWord? (by decide) word
  · exact numeral?_nested h

end MetaGraph.JsonPath

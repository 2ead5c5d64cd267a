/-
Where an expression is divided. A quoted text is passed as a whole, and
brackets and parentheses are counted, so a bar divides exactly if what stands
since the last dividing bar is closed. Closed texts are the parts of the text
that joins them with bars, and the parts of any text are joined to it again.
-/
import Mathlib.Logic.Basic
import MetaGraph.JsonPath.Union
import MetaGraph.Text.Pieces

namespace MetaGraph.JsonPath

/-! ## Closed texts -/

def IsQuote (c : Char) : Prop := c = '\'' ∨ c = '"'

def IsOpening (c : Char) : Prop := c = '[' ∨ c = '('

def IsClosing (c : Char) : Prop := c = ']' ∨ c = ')'

/-- A character that neither quotes nor nests nor divides. -/
def IsPlain (c : Char) : Prop := ¬ IsQuote c ∧ ¬ IsOpening c ∧ ¬ IsClosing c ∧ c ≠ '|'

instance (c : Char) : Decidable (IsQuote c) := inferInstanceAs (Decidable (_ ∨ _))
instance (c : Char) : Decidable (IsOpening c) := inferInstanceAs (Decidable (_ ∨ _))
instance (c : Char) : Decidable (IsClosing c) := inferInstanceAs (Decidable (_ ∨ _))
instance (c : Char) : Decidable (IsPlain c) := inferInstanceAs (Decidable (_ ∧ _))

/-- `Quoted q cs rest`: the text between the quotes `q` goes on as `cs` and ends in front of
`rest`. A backslash takes the character behind it along. -/
inductive Quoted (q : Char) : List Char → List Char → Prop
  | close (rest : List Char) : Quoted q (q :: rest) rest
  | escape (c : Char) {cs rest : List Char} : Quoted q cs rest → Quoted q ('\\' :: c :: cs) rest
  | char {c : Char} {cs rest : List Char} : c ≠ q → c ≠ '\\' → Quoted q cs rest → Quoted q (c :: cs) rest

/-- `Passes d cs d' rest`: what is scanned between `cs`, at the depth `d`, and `rest`, at the depth
`d'`, closes its quotes and holds no bar at depth zero. What closes without an opening one does
not count. -/
inductive Passes : Nat → List Char → Nat → List Char → Prop
  | done (d : Nat) (cs : List Char) : Passes d cs d cs
  | plain {d d' : Nat} {c : Char} {cs rest : List Char} :
    IsPlain c → Passes d cs d' rest → Passes d (c :: cs) d' rest
  | bar {d d' : Nat} {cs rest : List Char} : 0 < d → Passes d cs d' rest → Passes d ('|' :: cs) d' rest
  | opening {d d' : Nat} {c : Char} {cs rest : List Char} :
    IsOpening c → Passes (d + 1) cs d' rest → Passes d (c :: cs) d' rest
  | closing {d d' : Nat} {c : Char} {cs rest : List Char} :
    IsClosing c → Passes (d - 1) cs d' rest → Passes d (c :: cs) d' rest
  | quoted {d d' : Nat} {q : Char} {cs back rest : List Char} :
    IsQuote q → Quoted q cs back → Passes d back d' rest → Passes d (q :: cs) d' rest

/-- A text that closes all its quotes, ends at depth zero and holds no bar there. -/
def Closed (cs : List Char) : Prop := Passes 0 cs 0 []

variable {d d' d'' : Nat} {q c : Char} {cs rest rest' front back : List Char}

theorem Quoted.append (h : Quoted q cs rest) (more : List Char) : Quoted q (cs ++ more) (rest ++ more) := by
  induction h with
  | close rest => exact .close (rest ++ more)
  | escape c _ ih => exact .escape c ih
  | char other backslash _ ih => exact .char other backslash ih

namespace Passes

theorem trans (h : Passes d cs d' rest) (h' : Passes d' rest d'' rest') : Passes d cs d'' rest' := by
  induction h with
  | done => exact h'
  | plain hc _ ih => exact .plain hc (ih h')
  | bar deep _ ih => exact .bar deep (ih h')
  | opening hc _ ih => exact .opening hc (ih h')
  | closing hc _ ih => exact .closing hc (ih h')
  | quoted hq text _ ih => exact .quoted hq text (ih h')

theorem append (h : Passes d cs d' rest) (more : List Char) : Passes d (cs ++ more) d' (rest ++ more) := by
  induction h with
  | done d cs => exact .done d (cs ++ more)
  | plain hc _ ih => exact .plain hc ih
  | bar deep _ ih => exact .bar deep ih
  | opening hc _ ih => exact .opening hc ih
  | closing hc _ ih => exact .closing hc ih
  | quoted hq text _ ih => exact .quoted hq (text.append more) ih

end Passes

/-! ## The scan over them -/

namespace Scanner

theorem step_quote (hq : IsQuote q) : ({ depth := d } : Scanner).step q = { depth := d, quote := some q } := by
  simp only [step]
  exact if_pos hq

theorem step_opening (hc : IsOpening c) : ({ depth := d } : Scanner).step c = { depth := d + 1 } := by
  rcases hc with rfl | rfl <;> rfl

theorem step_closing (hc : IsClosing c) : ({ depth := d } : Scanner).step c = { depth := d - 1 } := by
  rcases hc with rfl | rfl <;> rfl

theorem step_other (hq : ¬ IsQuote c) (ho : ¬ IsOpening c) (hc : ¬ IsClosing c) :
    ({ depth := d } : Scanner).step c = { depth := d } := by
  simp only [step]
  exact (if_neg hq).trans ((if_neg ho).trans (if_neg hc))

theorem divides_iff : ({ depth := d } : Scanner).divides c = true ↔ d = 0 ∧ c = '|' := by
  simp [divides]

theorem not_divides (h : 0 < d ∨ c ≠ '|') : ({ depth := d } : Scanner).divides c = false := by
  rw [Bool.eq_false_iff, ne_eq, divides_iff]
  rintro ⟨rfl, rfl⟩
  rcases h with h | h
  · exact Nat.lt_irrefl 0 h
  · exact h rfl

end Scanner

open Scanner

/-- Puts a text in front of the first part. -/
def extend (front : List Char) : List (List Char) → List (List Char)
  | part :: parts => (front ++ part) :: parts
  | [] => [front]

theorem extend_extend (front back : List Char) (parts : List (List Char)) :
    extend front (extend back parts) = extend (front ++ back) parts := by
  cases parts <;> simp [extend]

theorem divide_cons {s : Scanner} (h : s.divides c = false) (cs : List Char) :
    divide s (c :: cs) = extend [c] (divide (s.step c) cs) := by
  rw [divide, h, if_neg Bool.false_ne_true]
  rfl

/-- There is always a part. -/
theorem divide_ne_nil (s : Scanner) (cs : List Char) : divide s cs ≠ [] := by
  cases cs with
  | nil => exact List.cons_ne_nil [] []
  | cons c cs =>
    cases hd : s.divides c with
    | true =>
      rw [divide, if_pos hd]
      exact List.cons_ne_nil _ _
    | false =>
      rw [divide_cons hd]
      cases divide (s.step c) cs <;> exact List.cons_ne_nil _ _

/-- A quoted text stays in one part. -/
theorem divide_quoted (hq : IsQuote q) (h : Quoted q cs rest) (d : Nat) : ∃ front, cs = front ++ rest ∧
    divide { depth := d, quote := some q } cs = extend front (divide { depth := d } rest) := by
  have mark : q ≠ '\\' := by rcases hq with rfl | rfl <;> decide
  induction h with
  | close rest => exact ⟨[q], rfl, by rw [divide_cons rfl]; simp [step, mark]⟩
  | @escape c cs rest _ ih =>
    obtain ⟨front, rfl, divided⟩ := ih
    refine ⟨'\\' :: c :: front, rfl, ?_⟩
    rw [divide_cons rfl, divide_cons rfl, extend_extend]
    exact (congrArg (extend ['\\', c]) divided).trans (extend_extend _ _ _)
  | @char c cs rest other backslash _ ih =>
    obtain ⟨front, rfl, divided⟩ := ih
    refine ⟨c :: front, rfl, ?_⟩
    have stays : ({ depth := d, quote := some q } : Scanner).step c = { depth := d, quote := some q } := by
      simp [step, backslash, other]
    rw [divide_cons rfl, stays, divided, extend_extend]
    rfl

/-- What passes stays in one part. -/
theorem divide_passes (h : Passes d cs d' rest) : ∃ front, cs = front ++ rest ∧
    divide { depth := d } cs = extend front (divide { depth := d' } rest) := by
  -- One character goes by, and the scan goes on in the state behind it.
  have one {d d₁ d' : Nat} {c : Char} {cs rest : List Char} (undivided : 0 < d ∨ c ≠ '|')
      (step : ({ depth := d } : Scanner).step c = { depth := d₁ })
      (ih : ∃ front, cs = front ++ rest ∧
        divide { depth := d₁ } cs = extend front (divide { depth := d' } rest)) :
      ∃ front, c :: cs = front ++ rest ∧
        divide { depth := d } (c :: cs) = extend front (divide { depth := d' } rest) := by
    obtain ⟨front, rfl, divided⟩ := ih
    exact ⟨c :: front, rfl, by rw [divide_cons (not_divides undivided), step, divided, extend_extend]; rfl⟩
  induction h with
  | done d cs =>
    refine ⟨[], rfl, ?_⟩
    obtain ⟨part, parts, hp⟩ := List.exists_cons_of_ne_nil (divide_ne_nil { depth := d } cs)
    rw [hp]
    rfl
  | plain hc _ ih => exact one (.inr hc.2.2.2) (step_other hc.1 hc.2.1 hc.2.2.1) ih
  | bar deep _ ih => exact one (.inl deep) rfl ih
  | opening hc _ ih => exact one (.inr (by rcases hc with rfl | rfl <;> decide)) (step_opening hc) ih
  | closing hc _ ih => exact one (.inr (by rcases hc with rfl | rfl <;> decide)) (step_closing hc) ih
  | @quoted d d' q cs back rest hq text _ ih =>
    obtain ⟨front, rfl, first⟩ := divide_quoted hq text d
    obtain ⟨front', rfl, later⟩ := ih
    refine ⟨q :: front ++ front', by simp, ?_⟩
    have undivided : q ≠ '|' := by rcases hq with rfl | rfl <;> decide
    rw [divide_cons (not_divides (.inr undivided)), step_quote hq, first, later, extend_extend, extend_extend]
    rfl

/-- A bar behind a closed text divides. -/
theorem splitUnion_append_bar (h : Closed cs) (rest : List Char) :
    splitUnion (cs ++ '|' :: rest) = cs :: splitUnion rest := by
  obtain ⟨front, whole, divided⟩ := divide_passes (h.append ('|' :: rest))
  obtain rfl : cs = front := List.append_cancel_right whole
  rw [splitUnion, divided]
  change extend cs ([] :: splitUnion rest) = _
  rw [extend, List.append_nil]

/-- A closed text is one part. -/
theorem splitUnion_closed (h : Closed cs) : splitUnion cs = [cs] := by
  obtain ⟨front, rfl, divided⟩ := divide_passes h
  rw [splitUnion, divided]
  simp [divide, extend]

/-! ## Where a text is divided -/

/-- A quoted text ends somewhere, or what follows is one part. -/
theorem quoted_or_open (hq : IsQuote q) : ∀ cs : List Char,
    (∃ text rest, cs = text ++ rest ∧ Quoted q text []) ∨ ∀ d, divide { depth := d, quote := some q } cs = [cs]
  | [] => .inr fun _ => rfl
  | [c] => by
    by_cases ends : c = q
    · exact .inl ⟨[c], [], rfl, ends ▸ .close []⟩
    · exact .inr fun _ => rfl
  | c :: c' :: cs => by
    by_cases ends : c = q
    · exact .inl ⟨[c], c' :: cs, rfl, ends ▸ .close []⟩
    by_cases backslash : c = '\\'
    · subst backslash
      rcases quoted_or_open hq cs with ⟨text, rest, rfl, h⟩ | h
      · exact .inl ⟨'\\' :: c' :: text, rest, rfl, .escape c' h⟩
      · refine .inr fun d => ?_
        rw [divide_cons rfl, divide_cons rfl, extend_extend]
        exact congrArg (extend ['\\', c']) (h d)
    rcases quoted_or_open hq (c' :: cs) with ⟨text, rest, whole, h⟩ | h
    · exact .inl ⟨c :: text, rest, congrArg (c :: ·) whole, .char ends backslash h⟩
    · refine .inr fun d => ?_
      have stays : ({ depth := d, quote := some q } : Scanner).step c = { depth := d, quote := some q } := by
        simp [step, backslash, ends]
      rw [divide_cons rfl, stays, h]
      rfl

/-- The scan comes to a bar at depth zero, or what follows is one part. -/
theorem bar_or_undivided (d : Nat) (cs : List Char) :
    (∃ front rest, cs = front ++ '|' :: rest ∧ Passes d front 0 []) ∨ divide { depth := d } cs = [cs] := by
  match cs with
  | [] => exact .inr rfl
  | c :: cs =>
    -- One character goes by, and what stands behind it decides.
    have one {d₁ : Nat} (undivided : 0 < d ∨ c ≠ '|') (step : ({ depth := d } : Scanner).step c = { depth := d₁ })
        (pass : ∀ {front}, Passes d₁ front 0 [] → Passes d (c :: front) 0 []) :
        (∃ front rest, c :: cs = front ++ '|' :: rest ∧ Passes d front 0 []) ∨
          divide { depth := d } (c :: cs) = [c :: cs] := by
      rcases bar_or_undivided d₁ cs with ⟨front, rest, rfl, h⟩ | h
      · exact .inl ⟨c :: front, rest, rfl, pass h⟩
      · exact .inr (by rw [divide_cons (not_divides undivided), step, h]; rfl)
    by_cases hq : IsQuote c
    · have undivided : c ≠ '|' := by rcases hq with rfl | rfl <;> decide
      rcases quoted_or_open hq cs with ⟨text, back, rfl, quoted⟩ | inside
      · rcases bar_or_undivided d back with ⟨front, rest, rfl, h⟩ | h
        · exact .inl ⟨c :: (text ++ front), rest, by simp, .quoted hq (quoted.append front) h⟩
        · obtain ⟨front, whole, divided⟩ := divide_quoted hq (quoted.append back) d
          obtain rfl : text = front := List.append_cancel_right whole
          refine .inr ?_
          rw [divide_cons (not_divides (.inr undivided)), step_quote hq, divided]
          exact congrArg (fun parts => extend [c] (extend text parts)) h
      · exact .inr (by rw [divide_cons (not_divides (.inr undivided)), step_quote hq, inside]; rfl)
    by_cases ho : IsOpening c
    · exact one (.inr (by rcases ho with rfl | rfl <;> decide)) (step_opening ho) (.opening ho)
    by_cases hc : IsClosing c
    · exact one (.inr (by rcases hc with rfl | rfl <;> decide)) (step_closing hc) (.closing hc)
    by_cases bar : c = '|'
    · subst bar
      rcases Nat.eq_zero_or_pos d with rfl | deep
      · exact .inl ⟨[], cs, rfl, .done 0 []⟩
      · exact one (.inl deep) rfl (.bar deep)
    · exact one (.inr bar) (step_other hq ho hc) (.plain ⟨hq, ho, hc, bar⟩)
termination_by cs.length

/-- A text in which no bar stands behind a closed text. -/
def Undivided (cs : List Char) : Prop := ∀ front back, cs = front ++ '|' :: back → ¬ Closed front

theorem undivided_iff : Undivided cs ↔ splitUnion cs = [cs] := by
  constructor
  · intro h
    refine (bar_or_undivided 0 cs).resolve_left ?_
    rintro ⟨front, rest, whole, closed⟩
    exact h front rest whole closed
  · rintro single front back rfl closed
    rw [splitUnion_append_bar closed] at single
    exact divide_ne_nil {} back (List.cons.inj single).2

/-- **Where an expression is divided**: at the bars that stand behind closed texts, and at no others. -/
theorem splitUnion_eq_iff {parts : List (List Char)} : splitUnion cs = parts ↔
    parts ≠ [] ∧ Text.joinChars '|' parts = cs ∧ (∀ t ∈ parts.dropLast, Closed t) ∧
      ∀ t ∈ parts.getLast?, Undivided t := by
  constructor
  · rintro rfl
    induction hn : cs.length using Nat.strongRecOn generalizing cs with
    | ind n ih =>
      subst hn
      by_cases whole : Undivided cs
      · rw [undivided_iff.1 whole]
        simpa [Text.joinChars] using whole
      · simp only [Undivided, not_forall, not_not] at whole
        obtain ⟨front, back, rfl, closed⟩ := whole
        obtain ⟨given, joined, between, last⟩ := ih back.length (by simp; omega) rfl
        rw [splitUnion_append_bar closed]
        obtain ⟨part, parts, hp⟩ := List.exists_cons_of_ne_nil given
        rw [hp] at joined between last ⊢
        refine ⟨List.cons_ne_nil _ _, ?_, List.forall_mem_cons.2 ⟨closed, between⟩, last⟩
        rw [Text.joinChars, joined]
        exact List.cons_ne_nil _ _
  · rintro ⟨given, rfl, closed, last⟩
    induction parts with
    | nil => exact absurd rfl given
    | cons t parts ih =>
      cases parts with
      | nil => exact undivided_iff.1 (last t rfl)
      | cons t' parts =>
        obtain ⟨first, closed⟩ := List.forall_mem_cons.1 closed
        rw [Text.joinChars, splitUnion_append_bar first, ih (List.cons_ne_nil _ _) closed last]
        exact List.cons_ne_nil _ _

theorem Closed.undivided (h : Closed cs) : Undivided cs := undivided_iff.2 (splitUnion_closed h)

/-- Whether a text is closed can be decided by dividing it from a bar behind it. -/
instance (cs : List Char) : Decidable (Closed cs) :=
  decidable_of_iff (splitUnion (cs ++ ['|']) = [cs, []])
    ⟨fun h => (splitUnion_eq_iff.1 h).2.2.1 cs List.mem_cons_self, fun h => splitUnion_append_bar h []⟩

/-- The parts of any text join to it. -/
theorem joinChars_splitUnion (cs : List Char) : Text.joinChars '|' (splitUnion cs) = cs :=
  (splitUnion_eq_iff.1 rfl).2.1

/-- **Dividing and joining.** Texts that are closed are the parts of the text that joins them with
bars, and the parts of any text join to it. -/
theorem splitUnion_joined :
    (∀ texts : List (List Char), texts ≠ [] → (∀ t ∈ texts, Closed t) →
      splitUnion (Text.joinChars '|' texts) = texts) ∧
    ∀ cs : List Char, Text.joinChars '|' (splitUnion cs) = cs := by
  constructor
  · intro texts given closed
    refine splitUnion_eq_iff.2 ⟨given, rfl, fun t ht => ?_, fun t ht => ?_⟩
    · exact closed t ((List.dropLast_sublist texts).subset ht)
    · exact (closed t (List.mem_of_mem_getLast? ht)).undivided
  · exact joinChars_splitUnion

/-- Bars in a filter, in parentheses and in quotes do not divide, and an empty text is a part. -/
theorem splitUnion_nested :
    splitUnion "$.a[?@.b == 'x|\\'|' || @.c]|('[' | \"|\")||b".toList =
      ["$.a[?@.b == 'x|\\'|' || @.c]".toList, "('[' | \"|\")".toList, [], ['b']] := by
  have closed : ∀ t ∈ ["$.a[?@.b == 'x|\\'|' || @.c]".toList, "('[' | \"|\")".toList, [], ['b']], Closed t := by
    decide +kernel
  exact splitUnion_joined.1 _ (List.cons_ne_nil _ _) closed

end MetaGraph.JsonPath

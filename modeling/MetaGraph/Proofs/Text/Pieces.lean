/-
The pieces of a text. Texts that are joined with a character are its pieces
again if none of them holds that character.
-/
import MetaGraph.Text.Pieces

namespace MetaGraph.Text

theorem splitChars_append (d : Char) (front back : List Char) :
    splitChars d (front ++ d :: back) = splitChars d front ++ splitChars d back := by
  induction front with
  | nil => simp [splitChars]
  | cons c cs ih =>
    by_cases h : c = d
    · simp [splitChars, h, ih]
    · simp only [List.cons_append, splitChars, if_neg h, ih]
      cases hs : splitChars d cs with
      | nil => exact absurd hs (splitChars_ne_nil d cs)
      | cons piece rest => rfl

theorem splitChars_of_notMem {d : Char} {cs : List Char} (h : d ∉ cs) : splitChars d cs = [cs] := by
  induction cs with
  | nil => rfl
  | cons c cs ih =>
    simp only [List.mem_cons, not_or] at h
    rw [splitChars, if_neg (Ne.symm h.1), ih h.2]

/-- Every other character of a text is in one of the pieces. -/
theorem mem_iff_mem_splitChars {d c : Char} {cs : List Char} (h : c ≠ d) :
    c ∈ cs ↔ ∃ piece ∈ splitChars d cs, c ∈ piece := by
  induction cs with
  | nil => simp [splitChars]
  | cons first cs ih =>
    rw [splitChars, List.mem_cons, ih]
    split
    · rename_i cut
      simp [cut, h]
    · cases hs : splitChars d cs with
      | nil => exact absurd hs (splitChars_ne_nil d cs)
      | cons piece rest => simp [or_assoc]

/-- A text that does not hold `d` stands at the end of the last piece. -/
theorem getLast?_splitChars_append {d : Char} {back : List Char} (h : d ∉ back) (front : List Char) :
    ∃ piece, (splitChars d (front ++ back)).getLast? = some (piece ++ back) := by
  induction front with
  | nil => exact ⟨[], by rw [List.nil_append, splitChars_of_notMem h]; rfl⟩
  | cons c cs ih =>
    obtain ⟨piece, hp⟩ := ih
    rw [List.cons_append, splitChars]
    cases hs : splitChars d (cs ++ back) with
    | nil => exact absurd hs (splitChars_ne_nil d _)
    | cons first rest =>
      rw [hs] at hp
      split
      · exact ⟨piece, by rw [List.getLast?_cons_cons, hp]⟩
      · cases rest with
        | nil =>
          rw [List.getLast?_singleton, Option.some.injEq] at hp
          exact ⟨c :: piece, by simp [hp]⟩
        | cons second more => exact ⟨piece, by simpa using hp⟩

/-- A text that starts otherwise is divided into more than one piece by each `d`. -/
theorem splitChars_cons_of_mem {d c : Char} {cs : List Char} (hc : c ≠ d) (h : d ∈ cs) :
    ∃ piece second rest, splitChars d (c :: cs) = (c :: piece) :: second :: rest := by
  obtain ⟨front, back, rfl⟩ := List.append_of_mem h
  have hne := splitChars_ne_nil d front
  have hne' := splitChars_ne_nil d back
  rw [splitChars, if_neg hc, splitChars_append]
  cases hf : splitChars d front with
  | nil => exact absurd hf hne
  | cons piece more =>
    cases hb : splitChars d back with
    | nil => exact absurd hb hne'
    | cons second rest =>
      cases more with
      | nil => exact ⟨piece, second, rest, rfl⟩
      | cons next more => exact ⟨piece, next, more ++ second :: rest, rfl⟩

/-- Texts that do not hold `d` are the pieces of the text that joins them. No texts join to the
empty one, which is a piece. -/
theorem splitOn_intercalate {d : Char} {texts : List String} (h : ∀ t ∈ texts, d ∉ t.toList) :
    splitOn d ((String.singleton d).intercalate texts) = if texts = [] then [""] else texts := by
  have pieces (t : String) (rest : List String) (h : ∀ t' ∈ t :: rest, d ∉ t'.toList) :
      splitChars d ([d].intercalate ((t :: rest).map String.toList)) = (t :: rest).map String.toList := by
    induction rest generalizing t with
    | nil => simpa using splitChars_of_notMem (by simpa using h)
    | cons t' rest ih =>
      obtain ⟨first, later⟩ := List.forall_mem_cons.1 h
      have joined : [d].intercalate ((t :: t' :: rest).map String.toList) =
          t.toList ++ d :: [d].intercalate ((t' :: rest).map String.toList) := by
        simp [List.intercalate_cons_cons]
      rw [joined, splitChars_append, splitChars_of_notMem first, ih t' later]
      rfl
  cases texts with
  | nil => rfl
  | cons t rest =>
    rw [splitOn, String.toList_intercalate, String.toList_singleton, pieces t rest h, List.map_map]
    simp

end MetaGraph.Text

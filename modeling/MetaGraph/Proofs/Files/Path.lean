/-
The steps of a name below a directory: those of the directory, and then
those of the name. A file's name that holds a slash is more than one step,
the first of which has to be a directory.
-/
import MetaGraph.Files.Path
import MetaGraph.Proofs.Text.Pieces

namespace MetaGraph

/-! ## Steps -/

namespace Path

/-- A piece that counts as a step. -/
def isStep (p : String) : Bool := p ≠ "" && p ≠ "."

theorem components_eq (path : String) :
    components path = ((Text.splitChars '/' path.toList).map String.ofList).filter isStep := rfl

/-- A directory's path is followed by a slash and a name, whether it ends with a slash or not. -/
theorem join_toList {dir : String} (h : dir ≠ "") (name : String) :
    ∃ front, (join dir name).toList = front ++ '/' :: name.toList ∧
      components dir = ((Text.splitChars '/' front).map String.ofList).filter isStep ∧
      (front ++ '/' :: name.toList).head? = dir.toList.head? := by
  have hne : dir.toList ≠ [] := fun he => h (String.toList_inj.1 (by rw [he]; rfl))
  rw [join]
  split
  · rename_i hd
    have hlast : dir.toList.getLast? = some '/' := by simpa [h] using hd
    obtain ⟨front, hf⟩ := List.getLast?_eq_some_iff.1 hlast
    refine ⟨front, by simp [hf], ?_, by rw [hf]; cases front <;> rfl⟩
    rw [components_eq, hf, Text.splitChars_append]
    simp [Text.splitChars, isStep]
  · refine ⟨dir.toList, by simp, components_eq dir, ?_⟩
    cases hd : dir.toList with
    | nil => exact absurd hd hne
    | cons c cs => rfl

theorem isAbsolute_join {dir : String} (h : dir ≠ "") (name : String) :
    isAbsolute (join dir name) = isAbsolute dir := by
  obtain ⟨front, hj, _, hh⟩ := join_toList h name
  rw [isAbsolute, isAbsolute, hj, hh]

/-- The pieces of a name come after those of its directory. -/
theorem splitOn_join {dir : String} (h : dir ≠ "") (name : String) :
    ∃ front, Text.splitOn '/' (join dir name) =
        (Text.splitChars '/' front).map String.ofList ++ Text.splitOn '/' name ∧
      components dir = ((Text.splitChars '/' front).map String.ofList).filter isStep := by
  obtain ⟨front, hj, hc, _⟩ := join_toList h name
  exact ⟨front, by rw [Text.splitOn, hj, Text.splitChars_append, List.map_append]; rfl, hc⟩

theorem components_join {dir : String} (h : dir ≠ "") (name : String) :
    components (join dir name) = components dir ++ components name := by
  obtain ⟨front, hs, hc⟩ := splitOn_join h name
  rw [hc, components, hs, List.filter_append]
  rfl

/-- A path asks for a directory if its last piece is no step. -/
theorem steps_eq (path : String) : steps path = components path ∨
    steps path = components path ++ ["."] := by
  simp only [steps]
  split
  · split
    · exact .inr rfl
    · exact .inl rfl
  · exact .inl rfl

theorem steps_of_isStep {path last : String} (hl : (Text.splitOn '/' path).getLast? = some last)
    (hs : isStep last = true) : steps path = components path := by
  have : last ≠ "" ∧ last ≠ "." := by simpa [isStep] using hs
  simp [steps, components, hl, this]

/-- The steps to a name below a directory, if the last piece of the name is a step. -/
theorem steps_join {dir name last : String} (h : dir ≠ "")
    (hl : (Text.splitOn '/' name).getLast? = some last) (hs : isStep last = true) :
    steps (join dir name) = components dir ++ components name := by
  obtain ⟨front, hj, _⟩ := splitOn_join h name
  have : (Text.splitOn '/' (join dir name)).getLast? = some last := by
    rw [hj, List.getLast?_append, hl]
    rfl
  rw [steps_of_isStep this hs, components_join h]

/-- The characters of a path, other than slashes and points, are those of its components. -/
theorem mem_iff_mem_components {c : Char} (slash : c ≠ '/') (point : c ≠ '.') (path : String) :
    c ∈ path.toList ↔ ∃ name ∈ components path, c ∈ name.toList := by
  rw [Text.mem_iff_mem_splitChars slash, components_eq]
  constructor
  · rintro ⟨piece, hp, hc⟩
    have step : isStep (String.ofList piece) = true := by
      have other (s : String) (hs : c ∉ s.toList) : String.ofList piece ≠ s := by
        rintro rfl
        exact hs (by rwa [String.toList_ofList])
      simp only [isStep, Bool.and_eq_true, decide_eq_true_eq]
      exact ⟨other "" (by simp), other "." (by simpa using point)⟩
    exact ⟨String.ofList piece, List.mem_filter.2 ⟨List.mem_map_of_mem hp, step⟩, by rwa [String.toList_ofList]⟩
  · rintro ⟨name, hn, hc⟩
    obtain ⟨piece, hp, rfl⟩ := List.mem_map.1 (List.mem_filter.1 hn).1
    exact ⟨piece, hp, by rwa [String.toList_ofList] at hc⟩

/-! ## Names with an ending -/

theorem isStep_ofList {cs : List Char} (h : 2 ≤ cs.length) : isStep (String.ofList cs) = true := by
  have hne (s : String) (hs : s.toList.length < 2) : String.ofList cs ≠ s := by
    rintro rfl
    rw [String.toList_ofList] at hs
    omega
  simp [isStep, hne "" (by decide), hne "." (by decide)]

theorem ne_dots_of_cons {c : Char} (cs : List Char) (h : c ≠ '.') :
    isStep (String.ofList (c :: cs)) = true ∧ String.ofList (c :: cs) ≠ "." ∧
      String.ofList (c :: cs) ≠ ".." := by
  have hne (s : String) (hs : s.toList.head? = some '.' ∨ s.toList.head? = none) :
      String.ofList (c :: cs) ≠ s := by
    rintro rfl
    rw [String.toList_ofList] at hs
    simp [h] at hs
  have hdot := hne "." (.inl rfl)
  have step : isStep (String.ofList (c :: cs)) = true := by
    simp only [isStep, Bool.and_eq_true, decide_eq_true_eq]
    exact ⟨hne "" (.inr rfl), hdot⟩
  exact ⟨step, hdot, hne ".." (.inl rfl)⟩

/-- What a name with an ending of more than one character is divided into: itself if it holds
no slash, and otherwise a first step, which is its start, and others. -/
theorem components_name {name : String} {c : Char} {cs front ending : List Char}
    (hn : name.toList = c :: cs) (he : name.toList = front ++ ending) (hc : c ≠ '/') (hd : c ≠ '.')
    (hs : '/' ∉ ending) (hlen : 2 ≤ ending.length) :
    (∃ last, (Text.splitOn '/' name).getLast? = some last ∧ isStep last = true) ∧
      ((Text.splitOn '/' name = [name] ∧ components name = [name] ∧ name ≠ "." ∧ name ≠ "..") ∨
        ∃ first second rest, components name = first :: second :: rest ∧ first ≠ "." ∧ first ≠ "..") := by
  obtain ⟨piece, hp⟩ := Text.getLast?_splitChars_append hs front
  have step : isStep (String.ofList (piece ++ ending)) = true :=
    isStep_ofList (by rw [List.length_append]; omega)
  have last : (Text.splitOn '/' name).getLast? = some (String.ofList (piece ++ ending)) := by
    rw [Text.splitOn, he, List.getLast?_map, hp]
    rfl
  refine ⟨⟨_, last, step⟩, ?_⟩
  by_cases hm : '/' ∈ name.toList
  · right
    have hm : '/' ∈ cs := by
      rw [hn] at hm
      exact (List.mem_cons.1 hm).resolve_left (Ne.symm hc)
    obtain ⟨start, second, rest, hsplit⟩ := Text.splitChars_cons_of_mem hc hm
    obtain ⟨first, hdot, hdots⟩ := ne_dots_of_cons start hd
    have pieces : Text.splitOn '/' name =
        String.ofList (c :: start) :: (second :: rest).map String.ofList := by
      rw [Text.splitOn, hn, hsplit]
      rfl
    have more : String.ofList (piece ++ ending) ∈ ((second :: rest).map String.ofList).filter isStep := by
      refine List.mem_filter.2 ⟨List.mem_of_getLast? ?_, step⟩
      rw [← last, pieces, List.map_cons, List.getLast?_cons_cons]
    obtain ⟨second', rest', hmore⟩ := List.exists_cons_of_ne_nil (List.ne_nil_of_mem more)
    refine ⟨String.ofList (c :: start), second', rest', ?_, hdot, hdots⟩
    rw [← hmore, components, pieces, List.filter_cons_of_pos]
    · rfl
    · exact first
  · left
    have pieces : Text.splitOn '/' name = [name] := by
      rw [Text.splitOn, Text.splitChars_of_notMem hm, List.map_singleton, String.ofList_toList]
    rw [pieces, List.getLast?_singleton, Option.some.injEq] at last
    obtain ⟨-, hdot, hdots⟩ := ne_dots_of_cons cs hd
    rw [← hn, String.ofList_toList] at hdot hdots
    refine ⟨pieces, ?_, hdot, hdots⟩
    rw [components, pieces, List.filter_cons_of_pos, List.filter_nil]
    rw [last]
    exact step

end Path

end MetaGraph

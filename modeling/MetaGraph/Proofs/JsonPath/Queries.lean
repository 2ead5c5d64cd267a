/-
How queries nest. What the readers of segments, conditions and calls take from
the front of a text is nested, and so is a whole query.
-/
import MetaGraph.Proofs.JsonPath.Nesting

namespace MetaGraph.JsonPath

variable {b : Bool} {cs back rest : List Char}

/-! ## Queries of at most one value, and slices -/

theorem plainSegment?_nested : TakesNested b plainSegment? := by
  intro cs x rest h
  unfold plainSegment? at h
  split at h
  · simp only [Option.map_eq_some_iff, Prod.exists, Prod.mk.injEq] at h
    obtain ⟨name, back, named, -, rfl⟩ := h
    exact .plain (by decide) (name?_nested named)
  · have closed {cs : List Char} {inside : Selector × List Char} (first : Nested true cs inside.2)
        (h : (after? ']' inside.2).bind (fun rest => some (Segment.of false [inside.1], rest)) = some (x, rest)) :
        Nested b ('[' :: cs) rest := by
      simp only [Option.bind_eq_some_iff] at h
      obtain ⟨back, closing, ⟨⟩⟩ := h
      exact .brackets (eq_cons_of_after? closing ▸ first) (.done b rest)
    simp only [Option.bind_eq_bind] at h
    split at h
    · rename_i text
      exact closed (quoted?_nested text) h
    · obtain ⟨_, indexed, h⟩ := Option.bind_eq_some_iff.1 h
      obtain ⟨⟨i, back⟩, index, rfl⟩ := Option.map_eq_some_iff.1 indexed
      exact closed (index?_nested index) h
  · cases h

theorem nested_plainSegments (b : Bool) (fuel : Nat) (cs : List Char) : Nested b cs (plainSegments fuel cs).2 := by
  induction fuel generalizing cs with
  | zero => exact .done b cs
  | succ fuel ih =>
    rw [plainSegments]
    split
    · rename_i segment
      exact (nested_skipBlanks b cs).trans ((plainSegment?_nested segment).trans (ih _))
    · exact .done b cs

theorem origin?_nested : TakesNested b origin? := by
  intro cs x rest h
  unfold origin? at h
  split at h
  · cases h
    exact .plain (by decide) (.done b rest)
  · cases h
    exact .plain (by decide) (.done b rest)
  · cases h

theorem singleQuery?_nested : TakesNested b singleQuery? := by
  intro cs x rest h
  simp only [singleQuery?, Option.bind_eq_bind, Option.bind_eq_some_iff, Prod.exists] at h
  obtain ⟨absolute, back, origin, ⟨⟩⟩ := h
  exact (origin?_nested origin).trans (nested_plainSegments b _ _)

theorem comparison?_nested : TakesNested b comparison? := by
  intro cs x rest h
  unfold comparison? at h
  split at h
  case h_7 => cases h
  all_goals cases h
  case h_5 | h_6 => exact .plain (by decide) (.done b rest)
  all_goals exact .plain (by decide) (.plain (by decide) (.done b rest))

theorem sliceRest?_nested (start : Option Int) : TakesNested b (sliceRest? start) := by
  intro cs x rest h
  simp only [sliceRest?, Option.bind_eq_bind, Option.bind_eq_some_iff] at h
  obtain ⟨back, colon, h⟩ := h
  rw [eq_cons_of_after? colon]
  refine .plain (by decide) ?_
  -- Behind the second bound stands what is behind its index, if there is one.
  have bounded : ∀ y ∈ index? (Json.skipBlanks back), Nested b back y.2 :=
    fun y hy => (nested_skipBlanks b back).trans (index?_nested hy)
  generalize index? (Json.skipBlanks back) = bound at h bounded
  split at h
  · rename_i afterColon colon
    refine Nested.trans ?_ ((nested_of_skipBlanks colon).trans (.plain (by decide) ?_))
    · cases bound with
      | none => exact .done b back
      | some y => exact bounded y rfl
    · split at h
      · rename_i index
        cases h
        exact (nested_skipBlanks b afterColon).trans (index?_nested index)
      · cases h
        exact .done b _
  · cases h
    cases bound with
    | none => exact .done b back
    | some y => exact bounded y rfl

theorem indexOrSlice?_nested : TakesNested b indexOrSlice? := by
  intro cs x rest h
  unfold indexOrSlice? at h
  split at h
  · rename_i i back index
    have first : Nested b cs back := index?_nested index
    split at h
    · rename_i slice
      cases h
      exact first.trans ((nested_skipBlanks b back).trans (sliceRest?_nested _ slice))
    · cases h
      exact first
  · exact sliceRest?_nested none h

/-! ## Segments and conditions -/

/-- What the readers with some fuel take from the front of a text is nested. Selectors and what is
between parentheses are read up to the mark that closes them. -/
structure ReadersNest (fuel : Nat) : Prop where
  selector : TakesNested true (selector? fuel)
  selectors : ∀ {cs ss rest}, selectors? fuel cs = some (ss, rest) → Nested true cs (']' :: rest)
  segment : ∀ {b}, TakesNested b (segment? fuel)
  segments : ∀ b cs, Nested b cs (segments fuel cs).2
  query : ∀ {b}, TakesNested b (query? fuel)
  call : ∀ {b}, TakesNested b (call? fuel)
  argument : ∀ {b}, TakesNested b (argument? fuel)
  operand : ∀ {b}, TakesNested b (operand? fuel)
  compared : ∀ {b}, TakesNested b (compared? fuel)
  test : ∀ {b}, TakesNested b (test? fuel)
  enclosed : ∀ {cs c rest}, enclosed? fuel cs = some (c, rest) → Nested true cs (')' :: rest)
  basic : ∀ {b}, TakesNested b (basic? fuel)
  conjunction : ∀ {b}, TakesNested b (conjunction? fuel)
  condition : TakesNested true (condition? fuel)

section Step

variable {fuel : Nat}

theorem selector?_nested (h : ReadersNest fuel) : TakesNested true (selector? (fuel + 1)) := by
  intro cs x rest hr
  unfold selector? at hr
  split at hr
  · cases hr
    exact .plain (by decide) (.done true rest)
  · simp only [Option.map_eq_some_iff, Prod.exists, Prod.mk.injEq] at hr
    obtain ⟨c, back, condition, -, rfl⟩ := hr
    exact .plain (by decide) ((nested_skipBlanks true _).trans (h.condition condition))
  · split at hr
    · rename_i text
      cases hr
      exact quoted?_nested text
    · exact indexOrSlice?_nested hr

theorem selectors?_nested (h : ReadersNest fuel) {ss : List Selector}
    (hr : selectors? (fuel + 1) cs = some (ss, rest)) : Nested true cs (']' :: rest) := by
  simp only [selectors?, Option.bind_eq_bind, Option.bind_eq_some_iff, Prod.exists] at hr
  obtain ⟨s, back, first, hr⟩ := hr
  have behind : Nested true cs (Json.skipBlanks back) :=
    (nested_skipBlanks true cs).trans ((h.selector first).trans (nested_skipBlanks true back))
  refine behind.trans ?_
  split at hr
  · rename_i comma
    simp only [Option.bind_eq_some_iff, Prod.exists] at hr
    obtain ⟨more, end_, others, ⟨⟩⟩ := hr
    rw [comma]
    exact .plain (by decide) (h.selectors others)
  · rename_i closing
    cases hr
    rw [closing]
    exact .done true _
  · cases hr

theorem shorthand?_nested : TakesNested b (shorthand? fuel) := by
  intro cs x rest hr
  unfold shorthand? at hr
  split at hr
  · cases hr
    exact .plain (by decide) (.done b rest)
  · simp only [Option.map_eq_some_iff, Prod.exists, Prod.mk.injEq] at hr
    obtain ⟨name, back, named, -, rfl⟩ := hr
    exact name?_nested named

theorem segment?_nested (h : ReadersNest fuel) : TakesNested b (segment? (fuel + 1)) := by
  intro cs x rest hr
  unfold segment? at hr
  split at hr
  case h_5 => cases hr
  all_goals
    simp only [Option.map_eq_some_iff, Prod.exists, Prod.mk.injEq] at hr
    obtain ⟨inside, back, read, -, rfl⟩ := hr
  · exact .brackets (h.selectors read) (.done b _)
  · exact .plain (by decide) (.plain (by decide) (.brackets (h.selectors read) (.done b _)))
  · exact .plain (by decide) (.plain (by decide) (shorthand?_nested read))
  · exact .plain (by decide) (shorthand?_nested read)

theorem nested_segments (h : ReadersNest fuel) (b : Bool) (cs : List Char) :
    Nested b cs (segments (fuel + 1) cs).2 := by
  rw [segments]
  split
  · rename_i segment
    exact (nested_skipBlanks b cs).trans ((h.segment segment).trans (h.segments b _))
  · exact .done b cs

theorem query?_nested (h : ReadersNest fuel) : TakesNested b (query? (fuel + 1)) := by
  intro cs x rest hr
  simp only [query?, Option.bind_eq_bind, Option.bind_eq_some_iff, Prod.exists] at hr
  obtain ⟨absolute, back, origin, ⟨⟩⟩ := hr
  exact (origin?_nested origin).trans (h.segments b _)

theorem call?_nested (h : ReadersNest fuel) : TakesNested b (call? (fuel + 1)) := by
  intro cs x rest hr
  unfold call? at hr
  obtain ⟨⟨name, back⟩, named, hr⟩ := Option.bind_eq_some_iff.1 hr
  obtain ⟨inside, opening, hr⟩ := Option.bind_eq_some_iff.1 hr
  -- The argument of each function is followed by the closing parenthesis.
  have closed {α : Type} {r : Scan α} {f : α → Operand} (taken : TakesNested true r)
      (hr : ((r (Json.skipBlanks inside)).map fun y => (f y.1, y.2)).bind (fun y =>
        (after? ')' (Json.skipBlanks y.2)).bind fun rest => some (y.1, rest)) = some (x, rest)) :
      Nested true inside (')' :: rest) := by
    simp only [Option.bind_eq_some_iff, Option.map_eq_some_iff] at hr
    obtain ⟨_, ⟨⟨y, back⟩, argument, rfl⟩, end_, closing, ⟨⟩⟩ := hr
    refine (nested_skipBlanks true inside).trans ((taken argument).trans ?_)
    exact eq_cons_of_after? closing ▸ nested_skipBlanks true back
  have nested : Nested true inside (')' :: rest) := by
    dsimp only at hr
    split at hr
    · exact closed h.argument hr
    split at hr
    · exact closed h.query hr
    split at hr
    · exact closed h.query hr
    · cases hr
  exact (name?_nested named).trans (eq_cons_of_after? opening ▸ .parens nested (.done b rest))

theorem argument?_nested (h : ReadersNest fuel) : TakesNested b (argument? (fuel + 1)) := by
  intro cs x rest hr
  unfold argument? at hr
  split at hr
  · rename_i value
    cases hr
    exact literal?_nested value
  split at hr
  · rename_i query
    split at hr
    · cases hr
      exact h.query query
    · cases hr
  · exact h.call hr

theorem operand?_nested (h : ReadersNest fuel) : TakesNested b (operand? (fuel + 1)) := by
  intro cs x rest hr
  unfold operand? at hr
  split at hr
  · rename_i value
    cases hr
    exact literal?_nested value
  split at hr
  · rename_i query
    cases hr
    exact singleQuery?_nested query
  · exact h.call hr

theorem compared?_nested (h : ReadersNest fuel) : TakesNested b (compared? (fuel + 1)) := by
  intro cs x rest hr
  simp only [compared?, Option.bind_eq_bind, Option.bind_eq_some_iff, Prod.exists] at hr
  obtain ⟨left, back, first, op, back', sign, right, back'', second, ⟨⟩⟩ := hr
  exact (h.operand first).trans ((nested_skipBlanks b back).trans ((comparison?_nested sign).trans
    ((nested_skipBlanks b back').trans (h.operand second))))

theorem test?_nested (h : ReadersNest fuel) : TakesNested b (test? (fuel + 1)) := by
  intro cs x rest hr
  unfold test? at hr
  split at hr
  · rename_i query
    cases hr
    exact h.query query
  · simp only [Option.bind_eq_bind, Option.bind_eq_some_iff, Prod.exists, Option.ite_none_right_eq_some] at hr
    obtain ⟨name, back, named, back₁, opening, -, text, back₂, first, back₃, comma, pattern, back₄, second,
      back₅, closing, ⟨⟩⟩ := hr
    have inside : Nested true back₁ (')' :: rest) := by
      refine (nested_skipBlanks true back₁).trans ((h.argument first).trans ?_)
      refine (eq_cons_of_after? comma ▸ nested_skipBlanks true back₂).trans (.plain (by decide) ?_)
      refine (nested_skipBlanks true back₃).trans ((h.argument second).trans ?_)
      exact eq_cons_of_after? closing ▸ nested_skipBlanks true back₄
    exact (name?_nested named).trans (eq_cons_of_after? opening ▸ .parens inside (.done b rest))

theorem enclosed?_nested (h : ReadersNest fuel) {x : Condition}
    (hr : enclosed? (fuel + 1) cs = some (x, rest)) : Nested true cs (')' :: rest) := by
  simp only [enclosed?, Option.bind_eq_bind, Option.bind_eq_some_iff, Prod.exists] at hr
  obtain ⟨c, back, condition, back', closing, ⟨⟩⟩ := hr
  refine (nested_skipBlanks true cs).trans ((h.condition condition).trans ?_)
  exact eq_cons_of_after? closing ▸ nested_skipBlanks true back

theorem basic?_nested (h : ReadersNest fuel) : TakesNested b (basic? (fuel + 1)) := by
  intro cs x rest hr
  unfold basic? at hr
  split at hr
  · exact .parens (h.enclosed hr) (.done b rest)
  · rename_i back
    refine .plain (by decide) ?_
    have blanks := nested_skipBlanks b back
    split at hr
    · rename_i opening
      rw [opening] at blanks
      simp only [Option.map_eq_some_iff, Prod.exists, Prod.mk.injEq] at hr
      obtain ⟨c, back', enclosed, -, rfl⟩ := hr
      exact blanks.trans (.parens (h.enclosed enclosed) (.done b _))
    · simp only [Option.map_eq_some_iff, Prod.exists, Prod.mk.injEq] at hr
      obtain ⟨c, back', test, -, rfl⟩ := hr
      exact blanks.trans (h.test test)
  · split at hr
    · rename_i compared
      cases hr
      exact h.compared compared
    · exact h.test hr

theorem conjunction?_nested (h : ReadersNest fuel) : TakesNested b (conjunction? (fuel + 1)) := by
  intro cs x rest hr
  simp only [conjunction?, Option.bind_eq_bind, Option.bind_eq_some_iff, Prod.exists] at hr
  obtain ⟨a, back, first, hr⟩ := hr
  refine (h.basic first).trans ?_
  split at hr
  · rename_i signs
    simp only [Option.bind_eq_some_iff, Prod.exists] at hr
    obtain ⟨c, back', second, ⟨⟩⟩ := hr
    refine (signs ▸ nested_skipBlanks b back).trans (.plain (by decide) (.plain (by decide) ?_))
    exact (nested_skipBlanks b _).trans (h.conjunction second)
  · cases hr
    exact .done b _

theorem condition?_nested (h : ReadersNest fuel) : TakesNested true (condition? (fuel + 1)) := by
  intro cs x rest hr
  simp only [condition?, Option.bind_eq_bind, Option.bind_eq_some_iff, Prod.exists] at hr
  obtain ⟨a, back, first, hr⟩ := hr
  refine (h.conjunction first).trans ?_
  split at hr
  · rename_i bars
    simp only [Option.bind_eq_some_iff, Prod.exists] at hr
    obtain ⟨c, back', second, ⟨⟩⟩ := hr
    refine (bars ▸ nested_skipBlanks true back).trans (.bar (.bar ?_))
    exact (nested_skipBlanks true _).trans (h.condition second)
  · cases hr
    exact .done true _

end Step

theorem readersNest (fuel : Nat) : ReadersNest fuel := by
  induction fuel with
  | zero =>
    constructor
    case segments => exact fun b cs => .done b cs
    case selectors | enclosed => exact nofun
    -- Without fuel nothing is read.
    all_goals
      intros
      intro cs x rest h
      cases h
  | succ fuel ih =>
    exact {
      selector := selector?_nested ih
      selectors := selectors?_nested ih
      segment := segment?_nested ih
      segments := nested_segments ih
      query := query?_nested ih
      call := call?_nested ih
      argument := argument?_nested ih
      operand := operand?_nested ih
      compared := compared?_nested ih
      test := test?_nested ih
      enclosed := enclosed?_nested ih
      basic := basic?_nested ih
      conjunction := conjunction?_nested ih
      condition := condition?_nested ih }

/-- **A query is nested.** -/
theorem nested_of_parse? {q : Query} (h : Query.parse? cs = some q) (b : Bool) : Nested b cs [] := by
  simp only [Query.parse?, Option.bind_eq_bind, Option.bind_eq_some_iff, Prod.exists] at h
  obtain ⟨q', rest, read, h⟩ := h
  have taken : Nested b cs rest := (readersNest _).query read
  split at h
  · split at h
    · rename_i whole
      exact whole ▸ taken
    · cases h
  · cases h

end MetaGraph.JsonPath

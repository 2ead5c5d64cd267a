/-
Expressions in parentheses. The parentheses around a single query are taken
off again if they close each other when those in quotes are counted as well.
A union in parentheses is no union: bars divide outside of parentheses only,
and what is left is no query.
-/
import MetaGraph.Proofs.Except
import MetaGraph.Proofs.JsonPath.Queries
import MetaGraph.Proofs.Text.Trim

namespace MetaGraph.JsonPath

open Text (trimChars)

variable {b : Bool} {c : Char} {cs rest : List Char}

/-! ## Parentheses that match -/

/-- Wherever the text is cut, no more parentheses are closed than opened, and as many at its end. -/
def ParensMatch (cs : List Char) : Prop :=
  (∀ front, front <+: cs → front.count ')' ≤ front.count '(') ∧ cs.count ')' = cs.count '('

/-- What every text holds that starts another one. -/
theorem forall_prefix_cons {P : List Char → Prop} :
    (∀ front, front <+: c :: cs → P front) ↔ P [] ∧ ∀ front, front <+: cs → P (c :: front) := by
  simp only [List.prefix_cons_iff]
  constructor
  · exact fun h => ⟨h [] (.inl rfl), fun front starts => h (c :: front) (.inr ⟨front, rfl, starts⟩)⟩
  · rintro ⟨none, more⟩ _ (rfl | ⟨front, rfl, starts⟩)
    · exact none
    · exact more front starts

/-- Some parentheses stand open in front of a text, and its last character closes the first of them. -/
theorem enclosesFrom_iff (n : Nat) (cs : List Char) : enclosesFrom (n + 1) (cs ++ [')']) = true ↔
    (∀ front, front <+: cs → front.count ')' ≤ n + front.count '(') ∧ cs.count ')' = n + cs.count '(' := by
  induction cs generalizing n with
  | nil =>
    cases n with
    | zero => simp [enclosesFrom]
    | succ n => simp [enclosesFrom]
  | cons c cs ih =>
    rw [forall_prefix_cons]
    by_cases opens : c = '('
    · subst opens
      rw [List.cons_append, enclosesFrom, ih]
      simp [Nat.add_assoc, Nat.add_comm 1]
    by_cases closes : c = ')'
    · subst closes
      cases n with
      | zero =>
        -- The first parenthesis is closed here, and more is to come.
        have closed : enclosesFrom 1 (')' :: cs ++ [')']) = false := by simp [enclosesFrom]
        rw [closed]
        refine iff_of_false Bool.false_ne_true fun ⟨⟨_, starts⟩, _⟩ => ?_
        simpa using starts [] List.nil_prefix
      | succ n =>
        rw [List.cons_append, enclosesFrom, if_neg (by omega), Nat.add_sub_cancel, ih]
        simp [Nat.add_right_comm n 1]
    · rw [List.cons_append, enclosesFrom, ih]
      · simp [opens, closes]
      · exact opens
      · exact closes

theorem isEnclosed_parens (cs : List Char) : isEnclosed ('(' :: cs ++ [')']) = enclosesFrom 1 (cs ++ [')']) := by
  rw [isEnclosed, List.getLast?_concat]
  rfl

theorem isEnclosed_iff : isEnclosed ('(' :: cs ++ [')']) = true ↔ ParensMatch cs := by
  rw [isEnclosed_parens, enclosesFrom_iff, ParensMatch]
  simp only [Nat.zero_add]

instance (cs : List Char) : Decidable (ParensMatch cs) := decidable_of_iff _ isEnclosed_iff

/-- What is enclosed stands between two parentheses. -/
theorem exists_of_isEnclosed (h : isEnclosed cs = true) : ∃ inner, cs = '(' :: inner ++ [')'] := by
  simp only [isEnclosed, Bool.and_eq_true, beq_iff_eq] at h
  obtain ⟨⟨first, last⟩, -⟩ := h
  obtain ⟨front, rfl⟩ := List.getLast?_eq_some_iff.1 last
  cases front with
  | nil => cases first
  | cons c inner =>
    cases first
    exact ⟨inner, rfl⟩

/-! ## Completing what is enclosed -/

/-- As many rounds as there are characters take off all the parentheses that can be. -/
theorem stripParens_enough {m n : Nat} (hm : cs.length ≤ m) (hn : cs.length ≤ n) :
    stripParens m cs = stripParens n cs := by
  have none (n : Nat) : stripParens n [] = [] := by cases n <;> rfl
  induction m generalizing n cs with
  | zero =>
    obtain rfl := List.length_eq_zero_iff.1 (Nat.le_zero.1 hm)
    rw [none, none]
  | succ m ih =>
    cases n with
    | zero =>
      obtain rfl := List.length_eq_zero_iff.1 (Nat.le_zero.1 hn)
      rw [none, none]
    | succ n =>
      have shorter := Text.length_trimChars_le (cs.drop 1).dropLast
      simp only [List.length_dropLast, List.length_drop] at shorter
      rw [stripParens, stripParens]
      split
      · exact ih (by omega) (by omega)
      · rfl

theorem inside_parens (cs : List Char) : (('(' :: cs ++ [')']).drop 1).dropLast = cs := by simp

theorem stripParens_parens (cs : List Char) : stripParens ('(' :: cs ++ [')']).length ('(' :: cs ++ [')']) =
    if isEnclosed ('(' :: cs ++ [')']) then stripParens (cs.length + 1) (trimChars cs) else '(' :: cs ++ [')'] := by
  have length : ('(' :: cs ++ [')']).length = cs.length + 1 + 1 := by simp
  rw [length, stripParens, inside_parens]

theorem trimChars_parens (cs : List Char) : trimChars ('(' :: cs ++ [')']) = '(' :: cs ++ [')'] := by
  refine Text.trimChars_of_noOuterBlank ⟨?_, ?_⟩
  · rintro _ ⟨⟩
    decide
  · intro c hc
    rw [List.getLast?_concat] at hc
    cases hc
    decide

/-- Parentheses that enclose a part make no difference. -/
theorem complete_enclosed (h : ParensMatch cs) : complete ('(' :: cs ++ [')']) = complete cs := by
  have enough : stripParens (cs.length + 1) (trimChars cs) = stripParens (trimChars cs).length (trimChars cs) :=
    stripParens_enough (Nat.le_succ_of_le (Text.length_trimChars_le cs)) le_rfl
  simp only [complete, trimChars_parens, stripParens_parens, if_pos (isEnclosed_iff.2 h), enough]

/-- No query starts with a parenthesis. -/
theorem parse?_paren (cs : List Char) : Query.parse? ('$' :: '.' :: '(' :: cs) = none := by
  have stays (fuel : Nat) : (segments fuel ('.' :: '(' :: cs)).2 = '.' :: '(' :: cs := by
    match fuel with
    | 0 | 1 | _ + 2 => rfl
  have rest (n : Nat) : query? (n + 1) ('$' :: '.' :: '(' :: cs) =
      some (.of true (segments n ('.' :: '(' :: cs)).1, '.' :: '(' :: cs) := by
    rw [query?]
    exact congrArg (fun rest => some (Query.of true _, rest)) (stays n)
  rw [Query.parse?, rest]
  rfl

theorem parse?_not_enclosed (h : ¬ ParensMatch cs) : Query.parse? (complete ('(' :: cs ++ [')'])) = none := by
  simp only [complete, trimChars_parens, stripParens_parens, if_neg (mt isEnclosed_iff.1 h)]
  exact parse?_paren (cs ++ [')'])

/-! ## Parts are nested -/

theorem Nested.of_plain (hc : IsPlain c) (h : Nested b (c :: cs) []) : Nested b cs [] := by
  cases h with
  | plain _ h => exact h
  | bar => exact absurd rfl hc.2.2.2
  | quoted hq => exact absurd hq hc.1
  | brackets => exact absurd (.inl rfl) hc.2.1
  | parens => exact absurd (.inr rfl) hc.2.1

theorem plainClass_blank : PlainClass Text.isBlank := by decide

theorem nested_of_trimChars (h : Nested b (trimChars cs) []) : Nested b cs [] := by
  obtain ⟨front, back, blank, blank', whole⟩ := Text.exists_trimChars cs
  have ends : Nested b back [] := by
    simpa using nested_append (fun c hc => plainClass_blank.isPlain (blank' c hc)) b []
  rw [whole, List.append_assoc]
  exact (nested_append (fun c hc => plainClass_blank.isPlain (blank c hc)) b _).trans ((h.append back).trans ends)

theorem Nested.parenthesized (h : Nested true cs []) : Nested b ('(' :: cs ++ [')']) [] :=
  .parens (h.append [')']) (.done b [])

theorem nested_of_stripParens (fuel : Nat) (h : Nested b (stripParens fuel cs) []) : Nested b cs [] := by
  induction fuel generalizing cs with
  | zero => exact h
  | succ fuel ih =>
    rw [stripParens] at h
    split at h
    · obtain ⟨inner, rfl⟩ := exists_of_isEnclosed ‹_›
      rw [inside_parens] at h
      exact (nested_of_trimChars (ih h)).withBars.parenthesized
    · exact h

/-- A part that writes a query is nested. -/
theorem nested_of_complete {q : Query} (h : Query.parse? (complete cs) = some q) : Nested b cs [] := by
  have nested := nested_of_parse? h b
  refine nested_of_trimChars (nested_of_stripParens (trimChars cs).length ?_)
  simp only [complete] at nested
  split at nested
  · exact nested
  · exact nested.of_plain (by decide)
  · exact (nested.of_plain (by decide)).of_plain (by decide)

/-- Nested parts may be joined where bars may stand. -/
theorem nested_joinChars {parts : List (List Char)} (h : ∀ t ∈ parts, Nested true t []) :
    Nested true (Text.joinChars '|' parts) [] := by
  induction parts with
  | nil => exact .done true []
  | cons t parts ih =>
    obtain ⟨first, others⟩ := List.forall_mem_cons.1 h
    cases parts with
    | nil => exact first
    | cons t' parts => exact (first.append _).trans (.bar (ih others))

/-! ## Parentheses outside quotes -/

/-- From where the scan stands, each parenthesis is met outside of quotes. -/
def BareFrom (s : Scanner) (cs : List Char) : Prop :=
  ∀ front c back, cs = front ++ c :: back → c = '(' ∨ c = ')' → (front.foldl Scanner.step s).quote = none

/-- No parenthesis stands in quotes. -/
def ParensBare (cs : List Char) : Prop := BareFrom {} cs

section Bare

variable {s : Scanner}

theorem bareFrom_cons :
    BareFrom s (c :: cs) ↔ (c = '(' ∨ c = ')' → s.quote = none) ∧ BareFrom (s.step c) cs := by
  constructor
  · refine fun h => ⟨h [] c cs rfl, ?_⟩
    rintro front c' back rfl paren
    exact h (c :: front) c' back rfl paren
  · rintro ⟨first, later⟩ (_ | ⟨_, front⟩) c' back ⟨⟩ paren
    · exact first paren
    · exact later front c' back rfl paren

theorem BareFrom.tail (h : BareFrom s (c :: cs)) : BareFrom (s.step c) cs := (bareFrom_cons.1 h).2

/-- In quotes, what comes next is no parenthesis. -/
theorem BareFrom.head (h : BareFrom s (c :: cs)) (quoted : s.quote ≠ none) : c ≠ '(' ∧ c ≠ ')' :=
  not_or.1 fun paren => quoted ((bareFrom_cons.1 h).1 paren)

instance decidableBareFrom : ∀ (s : Scanner) (cs : List Char), Decidable (BareFrom s cs)
  | _, [] => .isTrue (by rintro (_ | _) _ _ ⟨⟩)
  | s, c :: cs =>
    have := decidableBareFrom (s.step c) cs
    decidable_of_iff' _ bareFrom_cons

instance (cs : List Char) : Decidable (ParensBare cs) := decidableBareFrom {} cs

end Bare

theorem enclosesFrom_cons (h : c ≠ '(' ∧ c ≠ ')') (n : Nat) (cs : List Char) :
    enclosesFrom n (c :: cs) = enclosesFrom n cs := by
  rw [enclosesFrom]
  · exact h.1
  · exact h.2

theorem enclosesFrom_quoted {q : Char} (hq : IsQuote q) (h : Quoted q cs rest) {d : Nat}
    (bare : BareFrom { depth := d, quote := some q } cs) (n : Nat) (more : List Char) :
    BareFrom { depth := d } rest ∧ enclosesFrom n (cs ++ more) = enclosesFrom n (rest ++ more) := by
  have mark : q ≠ '\\' := by rcases hq with rfl | rfl <;> decide
  induction h with
  | close rest =>
    have closed : ({ depth := d, quote := some q } : Scanner).step q = { depth := d } := by
      simp [Scanner.step, mark]
    exact ⟨closed ▸ bare.tail, enclosesFrom_cons (bare.head (Option.some_ne_none q)) n _⟩
  | escape c _ ih =>
    obtain ⟨behind, same⟩ := ih bare.tail.tail
    refine ⟨behind, ?_⟩
    rw [List.cons_append, enclosesFrom_cons (bare.head (Option.some_ne_none q)), List.cons_append,
      enclosesFrom_cons (bare.tail.head (Option.some_ne_none q)), same]
  | @char c cs rest other backslash _ ih =>
    have stays : ({ depth := d, quote := some q } : Scanner).step c = { depth := d, quote := some q } := by
      simp [Scanner.step, backslash, other]
    obtain ⟨behind, same⟩ := ih (stays ▸ bare.tail)
    refine ⟨behind, ?_⟩
    rw [List.cons_append, enclosesFrom_cons (bare.head (Option.some_ne_none q)), same]

/-- Counting parentheses, a nested text in which none stands in quotes is passed over. -/
theorem enclosesFrom_nested (h : Nested b cs rest) {d : Nat} (bare : BareFrom { depth := d } cs) (n : Nat)
    (more : List Char) :
    BareFrom { depth := d } rest ∧ enclosesFrom (n + 1) (cs ++ more) = enclosesFrom (n + 1) (rest ++ more) := by
  induction h generalizing d n with
  | done => exact ⟨bare, rfl⟩
  | plain hc _ ih =>
    have other : _ ≠ '(' ∧ _ ≠ ')' := ⟨fun h => hc.2.1 (.inr h), fun h => hc.2.2.1 (.inr h)⟩
    obtain ⟨behind, same⟩ := ih (Scanner.step_other hc.1 hc.2.1 hc.2.2.1 ▸ bare.tail) n
    exact ⟨behind, (enclosesFrom_cons other _ _).trans same⟩
  | bar _ ih => exact ih bare.tail n
  | @quoted b q cs back rest hq text _ ih =>
    have other : q ≠ '(' ∧ q ≠ ')' := by rcases hq with rfl | rfl <;> decide
    obtain ⟨behind, passed⟩ := enclosesFrom_quoted hq text (Scanner.step_quote hq ▸ bare.tail) (n + 1) more
    obtain ⟨behind, same⟩ := ih behind n
    exact ⟨behind, (enclosesFrom_cons other _ _).trans (passed.trans same)⟩
  | brackets _ _ inside ih =>
    obtain ⟨behind, passed⟩ := inside bare.tail n
    obtain ⟨behind, same⟩ := ih behind.tail n
    exact ⟨behind, passed.trans same⟩
  | parens _ _ inside ih =>
    obtain ⟨behind, passed⟩ := inside bare.tail (n + 1)
    obtain ⟨behind, same⟩ := ih behind.tail n
    exact ⟨behind, passed.trans same⟩

theorem parensMatch_of_bare (h : Nested b cs []) (bare : ParensBare cs) : ParensMatch cs := by
  rw [← isEnclosed_iff, isEnclosed_parens, (enclosesFrom_nested h bare 0 [')']).2]
  rfl

/-! ## Reading an expression in parentheses -/

variable {e : String} {p : JsonPath}

/-- Each part of an expression that is read writes a query. -/
theorem parse_parts (h : parse e = .ok p) :
    p.parts.map some = (splitUnion e.toList).map fun part => Query.parse? (complete part) := by
  obtain ⟨queries, read, ⟨⟩⟩ := except_bind_ok.1 h
  refine map_mapM_ok (fun part q hq => ?_) read
  split at hq
  · cases hq
    exact Eq.symm ‹_›
  · cases hq

theorem parse_single (h : splitUnion e.toList = [cs]) :
    parse e = match Query.parse? (complete cs) with
      | some q => .ok ⟨e, [q]⟩
      | none => .error (.invalidJsonPath e diagnosis) := by
  rw [parse, h, List.mapM_cons]
  cases Query.parse? (complete cs) <;> rfl

/-- An expression is no union if it is one part. -/
theorem isUnion_eq_false_iff (h : parse e = .ok p) : p.isUnion = false ↔ splitUnion e.toList = [e.toList] := by
  have length : p.parts.length = (splitUnion e.toList).length := by simpa using congrArg List.length (parse_parts h)
  have given : (splitUnion e.toList).length ≠ 0 := mt List.length_eq_zero_iff.1 (divide_ne_nil {} e.toList)
  rw [isUnion, decide_eq_false_iff_not, length]
  constructor
  · intro few
    obtain ⟨part, one⟩ := List.length_eq_one_iff.1 (by omega : (splitUnion e.toList).length = 1)
    have joined := joinChars_splitUnion e.toList
    rw [one] at joined ⊢
    exact congrArg (fun part => [part]) joined
  · intro one
    simp [one]

/-- What is read is nested, apart from the bars that divide it. -/
theorem nested_of_parse (h : parse e = .ok p) : Nested true e.toList [] := by
  rw [← joinChars_splitUnion e.toList]
  refine nested_joinChars fun part hp => ?_
  have written : Query.parse? (complete part) ∈ p.parts.map some := parse_parts h ▸ List.mem_map_of_mem hp
  obtain ⟨q, -, hq⟩ := List.mem_map.1 written
  exact nested_of_complete hq.symm

/-- An expression that writes one query as a whole is one part. -/
theorem splitUnion_of_complete {q : Query} (h : Query.parse? (complete cs) = some q) : splitUnion cs = [cs] :=
  splitUnion_closed ((nested_of_complete h : Nested false cs []).passes nofun)

/-- In parentheses, an expression that is read is one part. -/
theorem parse_parens (h : parse e = .ok p) : parse ("(" ++ e ++ ")") =
    match Query.parse? (complete ('(' :: e.toList ++ [')'])) with
      | some q => .ok ⟨"(" ++ e ++ ")", [q]⟩
      | none => .error (.invalidJsonPath ("(" ++ e ++ ")") diagnosis) := by
  have text : ("(" ++ e ++ ")").toList = '(' :: e.toList ++ [')'] := by simp
  have enclosed : Nested false ('(' :: e.toList ++ [')']) [] := (nested_of_parse h).parenthesized
  exact parse_single ((congrArg splitUnion text).trans (splitUnion_closed (enclosed.passes nofun)))

/-- **Expressions in parentheses.** Parentheses around a single query change nothing where those in
it match, which they do unless some of them stand in quotes. In parentheses, a union is refused. -/
theorem parse_enclosed (h : parse e = .ok p) :
    (p.isUnion = false → ParensMatch e.toList →
      ∃ p', parse ("(" ++ e ++ ")") = .ok p' ∧ ∀ v, p'.find v = p.find v) ∧
    (ParensBare e.toList → ParensMatch e.toList) ∧
    (p.isUnion = true → parse ("(" ++ e ++ ")") = .error (.invalidJsonPath ("(" ++ e ++ ")") diagnosis)) := by
  refine ⟨fun single matched => ?_, parensMatch_of_bare (nested_of_parse h), fun union => ?_⟩
  · have parts := parse_parts h
    rw [(isUnion_eq_false_iff h).1 single] at parts
    obtain ⟨q, one, written⟩ : ∃ q, p.parts = [q] ∧ some q = Query.parse? (complete e.toList) :=
      List.map_eq_singleton_iff.1 parts
    rw [parse_parens h, complete_enclosed matched, ← written]
    exact ⟨_, rfl, fun v => by rw [find, find, one]⟩
  · rw [parse_parens h]
    suffices refused : Query.parse? (complete ('(' :: e.toList ++ [')'])) = none by rw [refused]
    by_cases matched : ParensMatch e.toList
    · rw [complete_enclosed matched, Option.eq_none_iff_forall_ne_some]
      intro q written
      have single := (isUnion_eq_false_iff h).2 (splitUnion_of_complete written)
      rw [union] at single
      cases single
    · exact parse?_not_enclosed matched

/-- Bars and parentheses in a filter are kept, and a union is refused. -/
theorem parse_enclosed_filter :
    (∃ p p', parse "$.a[?(@.b == 'x|y' || @.c) && length(@.d) > 1]" = .ok p ∧
      parse ("(" ++ "$.a[?(@.b == 'x|y' || @.c) && length(@.d) > 1]" ++ ")") = .ok p' ∧
      ∀ v, p'.find v = p.find v) ∧
    parse ("(" ++ "a|b" ++ ")") = .error (.invalidJsonPath ("(" ++ "a|b" ++ ")") diagnosis) := by
  constructor
  · have single : ∃ p, (parse "$.a[?(@.b == 'x|y' || @.c) && length(@.d) > 1]").toOption = some p ∧
        p.isUnion = false := by
      refine Option.map_eq_some_iff.1 ?_
      decide +kernel
    obtain ⟨p, read, single⟩ := single
    have read := except_eq_ok_of_toOption read
    obtain ⟨same, matched, -⟩ := parse_enclosed read
    obtain ⟨p', read', found⟩ := same single (matched (by decide +kernel))
    exact ⟨p, p', read, read', found⟩
  · obtain ⟨p, read, union⟩ : ∃ p, (parse "a|b").toOption = some p ∧ p.isUnion = true :=
      Option.map_eq_some_iff.1 (by decide +kernel)
    exact (parse_enclosed (except_eq_ok_of_toOption read)).2.2 union

/-- A union is read, but not in parentheses, and neither is a query with one parenthesis in quotes. -/
theorem enclosed_refused :
    ((∃ p, parse "a|b" = .ok p) ∧ ¬ ∃ p, parse ("(" ++ "a|b" ++ ")") = .ok p) ∧
    (∃ p, parse "$['(']" = .ok p) ∧ ¬ ∃ p, parse ("(" ++ "$['(']" ++ ")") = .ok p := by
  have accepted {e : String} (h : (parse e).toOption.isSome = true) : ∃ p, parse e = .ok p := by
    obtain ⟨p, read⟩ := Option.isSome_iff_exists.1 h
    exact ⟨p, except_eq_ok_of_toOption read⟩
  have refused {e : String} (h : (parse e).toOption.isNone = true) : ¬ ∃ p, parse e = .ok p := by
    rintro ⟨p, read⟩
    rw [read] at h
    cases h
  exact ⟨⟨accepted (by decide +kernel), refused (by decide +kernel)⟩, accepted (by decide +kernel),
    refused (by decide +kernel)⟩

end MetaGraph.JsonPath

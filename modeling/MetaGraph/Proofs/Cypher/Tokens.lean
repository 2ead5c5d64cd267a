/-
The tokens of statements. Labels, keys, types, properties and values each
stand in one token of their own, so the text of a statement is read as the
tokens that its form lays down, with the data in their places.
-/
import MetaGraph.Proofs.Cypher.Lexer

namespace MetaGraph.Cypher

/-! ## The forms of statements -/

/-- The pattern of a node that is called `element`. -/
def patternTokens (element label key : String) : List Token :=
  [.symbol '(', .name element, .symbol ':', .name label, .symbol '\x7b', .name "key", .symbol ':',
    .string key, .symbol '\x7d', .symbol ')']

/-- A property, and the token of the value that it is set to. -/
abbrev Setting := String × Token

def settingTokens (element : String) (x : Setting) : List Token :=
  [.name element, .symbol '.', .name x.1, .symbol '=', x.2]

/-- All settings, for each element in turn. -/
def settingsTokens (elements : List String) (settings : List Setting) : List Token :=
  [Token.symbol ','].intercalate (elements.flatMap fun e => settings.map (settingTokens e))

/-- The keys of the nodes of a label are unique. -/
def uniqueTokens (label : String) : List Token :=
  ["CREATE", "CONSTRAINT", "IF", "NOT", "EXISTS", "FOR"].map .name ++
    [.symbol '(', .name "n", .symbol ':', .name label, .symbol ')', .name "REQUIRE", .name "n", .symbol '.',
      .name "key", .name "IS", .name "UNIQUE"] ++ [.symbol ';']

def mergeNodeTokens (label key : String) (settings : List Setting) : List Token :=
  .name "MERGE" :: patternTokens "n" label key ++ .name "SET" :: settingsTokens ["n"] settings ++ [.symbol ';']

def mergeRelationTokens (startLabel startKey endLabel endKey kind reverseKind : String)
    (settings : List Setting) : List Token :=
  .name "MATCH" :: patternTokens "n1" startLabel startKey ++ .symbol ',' :: patternTokens "n2" endLabel endKey ++
    [.name "MERGE", .symbol '(', .name "n1", .symbol ')', .symbol '-', .symbol '[', .name "r1", .symbol ':',
      .name kind, .symbol ']', .symbol '-', .symbol '>', .symbol '(', .name "n2", .symbol ')', .symbol '-',
      .symbol '[', .name "r2", .symbol ':', .name reverseKind, .symbol ']', .symbol '-', .symbol '>',
      .symbol '(', .name "n1", .symbol ')', .name "SET"] ++
    settingsTokens ["r1", "r2"] settings ++ [.symbol ';']

/-! ## The tokens of a statement -/

def Value.token : Value → Token
  | quoted s => .string s
  | bare s => .literal s

/-- A bare value is a literal. -/
def Value.Sound : Value → Prop
  | quoted _ => True
  | bare s => isBare s.toList = true ∧ s ≠ ""

def Assignment.setting (a : Assignment) : Setting := (a.property, a.value.token)

def Statement.tokens : Statement → List Token
  | unique label => uniqueTokens label
  | node n sets => mergeNodeTokens n.label n.key (sets.map Assignment.setting)
  | relation start target kind reverseKind sets =>
    mergeRelationTokens start.label start.key target.label target.key kind reverseKind
      (sets.map Assignment.setting)

/-- Something is set, and bare values are literals. -/
def Statement.Sound : Statement → Prop
  | unique _ => True
  | node _ sets | relation _ _ _ _ sets => sets ≠ [] ∧ ∀ a ∈ sets, a.value.Sound

/-! ## One statement each -/

theorem mem_intercalate {α : Type} {sep : List α} {xss : List (List α)} {a : α}
    (h : a ∈ sep.intercalate xss) : a ∈ sep ∨ ∃ xs ∈ xss, a ∈ xs := by
  induction xss with
  | nil => simp at h
  | cons xs xss ih =>
    cases xss with
    | nil => exact .inr ⟨xs, List.mem_cons_self, by simpa using h⟩
    | cons ys yss =>
      rw [List.intercalate_cons_cons, List.append_assoc, List.mem_append, List.mem_append] at h
      rcases h with h | h | h
      · exact .inr ⟨xs, List.mem_cons_self, h⟩
      · exact .inl h
      · exact (ih h).imp_right fun ⟨zs, hz, ha⟩ => ⟨zs, List.mem_cons_of_mem xs hz, ha⟩

/-- Settings hold no semicolon outside of their values. -/
theorem semicolon_not_mem_settings (elements : List String) (sets : List Assignment) :
    .symbol ';' ∉ settingsTokens elements (sets.map Assignment.setting) := by
  intro h
  rcases mem_intercalate h with h | ⟨ts, hts, h⟩
  · simp at h
  · simp only [List.map_map, List.mem_flatMap, List.mem_map, Function.comp_apply] at hts
    obtain ⟨e, -, a, -, rfl⟩ := hts
    cases hv : a.value <;> simp [settingTokens, Assignment.setting, Value.token, hv] at h

theorem map_intercalate {α β : Type} (f : α → β) (sep : List α) (xss : List (List α)) :
    (sep.intercalate xss).map f = (sep.map f).intercalate (xss.map (List.map f)) := by
  induction xss with
  | nil => rfl
  | cons xs xss ih =>
    cases xss with
    | nil => simp
    | cons ys yss => simp [List.intercalate_cons_cons, ih]

theorem oneSentence_tokens (st : Statement) : OneSentence st.tokens := by
  cases st with
  | unique label => exact ⟨_, rfl, by simp⟩
  | node n sets =>
    refine ⟨_, rfl, ?_⟩
    simpa [patternTokens] using semicolon_not_mem_settings ["n"] sets
  | relation start target kind reverseKind sets =>
    refine ⟨_, rfl, ?_⟩
    simpa [patternTokens] using semicolon_not_mem_settings ["r1", "r2"] sets

/-! ## Reading statements -/

open Reading

theorem reads_pattern {element : String} (h : isWord element.toList = true) (n : NodeRef) :
    Reads between (n.pattern element).toList (patternTokens element n.label n.key) between := by
  have opens : Reads between ['('] [.symbol '('] between := rfl
  have name : Reads between (element.toList ++ [':']) [.name element, .symbol ':'] between :=
    reads_word h (by decide)
  have label : Reads between ((identifier n.label).toList ++ [' ']) [.name n.label] between :=
    reads_identifier n.label (by decide)
  have fixed : Reads between "\x7bkey: ".toList [.symbol '\x7b', .name "key", .symbol ':'] between := rfl
  have closes : Reads between "\x7d)".toList [.symbol '\x7d', .symbol ')'] between := rfl
  have read := opens.append (name.append (label.append (fixed.append
    ((reads_stringLiteral n.key rfl).append closes))))
  simpa [NodeRef.pattern, patternTokens] using read

/-- An assignment is read up to the character after it, which belongs to no value. -/
theorem reads_assignment {element : String} (h : isWord element.toList = true) {a : Assignment}
    (ha : a.value.Sound) {c : Char} (hc : isRunChar c = false) :
    Reads between ((a.text element).toList ++ [c]) (settingTokens element a.setting ++ (start c).1)
      (start c).2 := by
  have name : Reads between (element.toList ++ ['.']) [.name element, .symbol '.'] between :=
    reads_word h (by decide)
  have property : Reads between ((identifier a.property).toList ++ [' ']) [.name a.property] between :=
    reads_identifier a.property (by decide)
  have equals : Reads between "= ".toList [.symbol '='] value := rfl
  have value : Reads value (a.value.text.toList ++ [c]) (a.value.token :: (start c).1) (start c).2 := by
    cases hv : a.value with
    | quoted s => exact (reads_stringLiteral s rfl).append (.single rfl)
    | bare s =>
      rw [hv] at ha
      exact reads_bare ha.1 ha.2 hc
  simpa [Assignment.text, settingTokens, Assignment.setting] using
    name.append (property.append (equals.append value))

/-- What is read up to the character after it is read with commas between, up to a semicolon. -/
theorem reads_list {α : Type} {text : α → List Char} {tokens : α → List Token} {xs : List α}
    (h : ∀ x ∈ xs, ∀ c, isRunChar c = false →
      Reads between (text x ++ [c]) (tokens x ++ (start c).1) (start c).2) (given : xs ≠ []) :
    Reads between (", ".toList.intercalate (xs.map text) ++ [';'])
      ([Token.symbol ','].intercalate (xs.map tokens) ++ [.symbol ';']) between := by
  induction xs with
  | nil => exact absurd rfl given
  | cons x xs ih =>
    obtain ⟨hx, hxs⟩ := List.forall_mem_cons.1 h
    cases xs with
    | nil =>
      have here : Reads between (text x ++ [';']) (tokens x ++ [.symbol ';']) between := hx ';' rfl
      simpa using here
    | cons y ys =>
      have here : Reads between (text x ++ [',']) (tokens x ++ [.symbol ',']) between := hx ',' rfl
      have blank : Reads between [' '] [] between := rfl
      simpa using here.append (blank.append (ih hxs (List.cons_ne_nil y ys)))

theorem reads_assignments {elements : List String} (h : ∀ e ∈ elements, isWord e.toList = true)
    {sets : List Assignment} (hs : ∀ a ∈ sets, a.value.Sound) (given : elements ≠ [] ∧ sets ≠ []) :
    Reads between ((Statement.assignments elements sets).toList ++ [';'])
      (settingsTokens elements (sets.map Assignment.setting) ++ [.symbol ';']) between := by
  have each : ∀ x ∈ elements.flatMap fun e => sets.map (Prod.mk e), ∀ c, isRunChar c = false →
      Reads between ((x.2.text x.1).toList ++ [c]) (settingTokens x.1 x.2.setting ++ (start c).1) (start c).2 := by
    rintro ⟨e, a⟩ hx c hc
    simp only [List.mem_flatMap, List.mem_map, Prod.mk.injEq] at hx
    obtain ⟨_, he, _, ha, rfl, rfl⟩ := hx
    exact reads_assignment (h _ he) (hs _ ha) hc
  have some : (elements.flatMap fun e => sets.map (Prod.mk e)) ≠ [] := by
    obtain ⟨e, he⟩ := List.exists_mem_of_ne_nil _ given.1
    obtain ⟨a, ha⟩ := List.exists_mem_of_ne_nil _ given.2
    exact List.ne_nil_of_mem (List.mem_flatMap.2 ⟨e, he, List.mem_map_of_mem ha⟩)
  simpa [Statement.assignments, settingsTokens, List.map_flatMap, Function.comp_def] using reads_list each some

/-- A statement and the line break after it are read as its tokens. -/
theorem reads_statement {st : Statement} (h : st.Sound) :
    Reads between (st.text ++ "\n").toList st.tokens between := by
  have newline : Reads between ['\n'] [] between := rfl
  have set : Reads between " SET ".toList [.name "SET"] between := by decide +kernel
  unfold Statement.text
  cases st with
  | unique label =>
    have front : Reads between "CREATE CONSTRAINT IF NOT EXISTS FOR (n:".toList
      (["CREATE", "CONSTRAINT", "IF", "NOT", "EXISTS", "FOR"].map .name ++
        [.symbol '(', .name "n", .symbol ':']) between := by decide +kernel
    have name : Reads between ((identifier label).toList ++ [')']) [.name label, .symbol ')'] between :=
      reads_identifier label (by decide)
    have back : Reads between " REQUIRE n.key IS UNIQUE;".toList [.name "REQUIRE", .name "n", .symbol '.',
      .name "key", .name "IS", .name "UNIQUE", .symbol ';'] between := by decide +kernel
    simpa [Statement.tokens, uniqueTokens] using
      front.append (name.append (back.append newline))
  | node n sets =>
    have merge : Reads between "MERGE ".toList [.name "MERGE"] between := by decide +kernel
    have settings := reads_assignments (by decide : ∀ e ∈ ["n"], isWord e.toList = true) h.2
      ⟨List.cons_ne_nil _ _, h.1⟩
    simpa [Statement.tokens, mergeNodeTokens] using
      merge.append ((reads_pattern (by decide) n).append (set.append (settings.append newline)))
  | relation start target kind reverseKind sets =>
    have starts : Reads between "MATCH ".toList [.name "MATCH"] between := by decide +kernel
    have comma : Reads between ", ".toList [.symbol ','] between := by decide +kernel
    have merge : Reads between " MERGE (n1)-[r1:".toList [.name "MERGE", .symbol '(', .name "n1", .symbol ')',
      .symbol '-', .symbol '[', .name "r1", .symbol ':'] between := by decide +kernel
    have forward : Reads between ((identifier kind).toList ++ [']']) [.name kind, .symbol ']'] between :=
      reads_identifier kind (by decide)
    have turn : Reads between "->(n2)-[r2:".toList [.symbol '-', .symbol '>', .symbol '(', .name "n2",
      .symbol ')', .symbol '-', .symbol '[', .name "r2", .symbol ':'] between := by decide +kernel
    have back : Reads between ((identifier reverseKind).toList ++ [']']) [.name reverseKind, .symbol ']']
      between := reads_identifier reverseKind (by decide)
    have ends : Reads between "->(n1)".toList [.symbol '-', .symbol '>', .symbol '(', .name "n1", .symbol ')']
      between := by decide +kernel
    have settings := reads_assignments (by decide : ∀ e ∈ ["r1", "r2"], isWord e.toList = true) h.2
      ⟨List.cons_ne_nil _ _, h.1⟩
    have pattern := starts.append ((reads_pattern (by decide : isWord "n1".toList = true) start).append
      (comma.append (reads_pattern (by decide : isWord "n2".toList = true) target)))
    have merged := merge.append (forward.append (turn.append (back.append ends)))
    simpa [Statement.tokens, mergeRelationTokens] using
      pattern.append (merged.append (set.append (settings.append newline)))

theorem reads_script {script : List Statement} (h : ∀ st ∈ script, st.Sound) :
    Reads between (scriptText script).toList (script.flatMap Statement.tokens) between := by
  rw [scriptText, String.toList_join, List.flatMap_map]
  induction script with
  | nil => exact .nil between
  | cons st script ih =>
    obtain ⟨first, rest⟩ := List.forall_mem_cons.1 h
    exact (reads_statement first).append (ih rest)

/-- A script is read as its statements, whatever data they hold. -/
theorem readScript_scriptText {script : List Statement} (h : ∀ st ∈ script, st.Sound) :
    readScript (scriptText script) = some (script.map Statement.tokens) := by
  have read : between.feed (scriptText script).toList = some (script.flatMap Statement.tokens, between) :=
    reads_script h
  have tokens : lex (scriptText script) = some (script.map Statement.tokens).flatten := by
    simp [lex, read, finish, List.flatMap_def]
  rw [readScript, tokens, Option.bind_some, sentences_flatten]
  intro ts hts
  obtain ⟨st, -, rfl⟩ := List.mem_map.1 hts
  exact oneSentence_tokens st

end MetaGraph.Cypher

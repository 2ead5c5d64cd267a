/-
A lexer for scripts, character by character. It knows nothing of how a script
is written: strings stand between single quotes, with backslash escapes;
names are plain words or stand between backquotes, with a backquote written
twice; and a value without quotes is a boolean or a run of the characters of
numbers. A run such as 7 or true could be a word as well as a value, so the
place decides: after an equals sign a value is due, and nowhere else.
What the writer makes of a name, a string or a bare value is read as exactly
that, whatever characters it holds.
-/
import MetaGraph.Cypher.Statement
import MetaGraph.Proofs.Csv.Numeric

namespace MetaGraph.Cypher

/-- A token with its text decoded. A name counts alike with and without backquotes. -/
inductive Token where
  | name (s : String)
  | string (s : String)
  | literal (s : String)
  | symbol (c : Char)
deriving DecidableEq, Repr

/-- What is being read, with the characters of it that were read. -/
inductive Reading where
  | between
  | word (cs : List Char)
  | quoted (cs : List Char)
  /-- After a backquote, which ends the name unless another one follows. -/
  | quotedEnd (cs : List Char)
  | string (cs : List Char)
  /-- After a backslash in a string. -/
  | escape (cs : List Char)
  /-- After an equals sign. -/
  | value
  | literal (cs : List Char)
deriving DecidableEq, Repr

/-- The character that an escape stands for. -/
def escaped? : Char → Option Char
  | '\\' => some '\\'
  | '\'' => some '\''
  | '"' => some '"'
  | 'b' => some '\x08'
  | 'f' => some '\x0c'
  | 'n' => some '\n'
  | 'r' => some '\r'
  | 't' => some '\t'
  | _ => none

/-- Characters that can stand in a value without quotes. -/
def isRunChar (c : Char) : Bool := isWordChar c || isNumberChar c

/-- A boolean in any case, or a run of the characters of numbers. -/
def isBare (cs : List Char) : Bool :=
  cs.map Char.toLower = ['t', 'r', 'u', 'e'] || cs.map Char.toLower = ['f', 'a', 'l', 's', 'e'] ||
    cs.all isNumberChar

theorem ne_of_class {p : Char → Bool} {c d : Char} (hc : p c = true) (hd : p d = false) : c ≠ d := by
  rintro rfl
  rw [hd] at hc
  cases hc

namespace Reading

/-- Starts on a character that belongs to no token yet. -/
def start (c : Char) : List Token × Reading :=
  if c = ' ' ∨ c = '\n' then ([], between)
  else if c = singleQuote then ([], string [])
  else if c = backquote then ([], quoted [])
  else if isWordChar c then ([], word [c])
  else if c = '=' then ([.symbol c], value)
  else ([.symbol c], between)

/-- Ends a token before a character. -/
def endWith (t : Token) (c : Char) : List Token × Reading := (t :: (start c).1, (start c).2)

/-- Reads one character: the tokens that it ends, and how reading goes on. -/
def step : Reading → Char → Option (List Token × Reading)
  | between, c => some (start c)
  | word cs, c => some (if isWordChar c then ([], word (cs ++ [c])) else endWith (.name (String.ofList cs)) c)
  | quoted cs, c => some ([], if c = backquote then quotedEnd cs else quoted (cs ++ [c]))
  | quotedEnd cs, c =>
    some (if c = backquote then ([], quoted (cs ++ [c])) else endWith (.name (String.ofList cs)) c)
  | string cs, c =>
    some (if c = singleQuote then ([.string (String.ofList cs)], between)
      else if c = '\\' then ([], escape cs) else ([], string (cs ++ [c])))
  | escape cs, c => (escaped? c).map fun d => ([], string (cs ++ [d]))
  | value, c =>
    some (if c = ' ' ∨ c = '\n' then ([], value) else if isRunChar c then ([], literal [c]) else start c)
  | literal cs, c =>
    if isRunChar c then some ([], literal (cs ++ [c]))
    else if isBare cs then some (endWith (.literal (String.ofList cs)) c)
    else none

def feed : Reading → List Char → Option (List Token × Reading)
  | r, [] => some ([], r)
  | r, c :: cs => do
    let (front, r) ← r.step c
    let (back, r) ← r.feed cs
    pure (front ++ back, r)

/-- What is left at the end of a script. -/
def finish : Reading → Option (List Token)
  | between | value => some []
  | word cs | quotedEnd cs => some [.name (String.ofList cs)]
  | literal cs => if isBare cs then some [.literal (String.ofList cs)] else none
  | quoted _ | string _ | escape _ => none

/-- Reading the characters gives the tokens and goes on as told. -/
def Reads (r : Reading) (cs : List Char) (ts : List Token) (r' : Reading) : Prop := r.feed cs = some (ts, r')

instance (r : Reading) (cs : List Char) (ts : List Token) (r' : Reading) : Decidable (Reads r cs ts r') :=
  inferInstanceAs (Decidable (_ = _))

variable {r r' r'' : Reading}

theorem Reads.nil (r : Reading) : Reads r [] [] r := rfl

theorem Reads.cons {c : Char} {cs : List Char} {front back : List Token} (h : r.step c = some (front, r'))
    (hs : Reads r' cs back r'') : Reads r (c :: cs) (front ++ back) r'' := by
  rw [Reads, feed, h]
  simp only [bind, Option.bind, show r'.feed cs = some (back, r'') from hs]
  rfl

theorem Reads.append {xs ys : List Char} {front back : List Token} (hx : Reads r xs front r')
    (hy : Reads r' ys back r'') : Reads r (xs ++ ys) (front ++ back) r'' := by
  induction xs generalizing r front with
  | nil =>
    cases hx
    exact hy
  | cons c cs ih =>
    rw [Reads, feed] at hx
    cases hc : r.step c with
    | none => rw [hc] at hx; cases hx
    | some p =>
      obtain ⟨here, r₁⟩ := p
      simp only [hc, bind, Option.bind] at hx
      cases hs : r₁.feed cs with
      | none => rw [hs] at hx; cases hx
      | some q =>
        obtain ⟨later, r₂⟩ := q
        rw [hs] at hx
        cases hx
        rw [List.cons_append, List.append_assoc]
        exact .cons hc (ih hs)

theorem Reads.silent {c : Char} {cs : List Char} {ts : List Token} (h : r.step c = some ([], r'))
    (hs : Reads r' cs ts r'') : Reads r (c :: cs) ts r'' := .cons h hs

theorem Reads.single {c : Char} {ts : List Token} (h : r.step c = some (ts, r')) : Reads r [c] ts r' := by
  simpa using Reads.cons h (.nil r')

/-- A token that the next character ends. -/
theorem Reads.endWith {cs : List Char} {t : Token} {c : Char} (h : Reads r cs [] r')
    (hc : r'.step c = some (Reading.endWith t c)) : Reads r (cs ++ [c]) (t :: (start c).1) (start c).2 :=
  h.append (.single hc)

/-! ## Names -/

/-- A character that ends a name, bare or between backquotes. -/
def EndsName (c : Char) : Prop := isWordChar c = false ∧ c ≠ backquote

instance (c : Char) : Decidable (EndsName c) := inferInstanceAs (Decidable (_ ∧ _))

theorem reads_wordChars {cs : List Char} (h : ∀ c ∈ cs, isWordChar c = true) (front : List Char) :
    Reads (word front) cs [] (word (front ++ cs)) := by
  induction cs generalizing front with
  | nil => simpa using Reads.nil (word front)
  | cons c cs ih =>
    obtain ⟨hc, hcs⟩ := List.forall_mem_cons.1 h
    have here : (word front).step c = some ([], word (front ++ [c])) := by simp [step, hc]
    simpa using Reads.silent here (ih hcs (front ++ [c]))

theorem start_wordChar {c : Char} (h : isWordChar c = true) : start c = ([], word [c]) := by
  have other {d : Char} (hd : isWordChar d = false) : c ≠ d := ne_of_class h hd
  rw [start, if_neg (not_or.2 ⟨other rfl, other rfl⟩), if_neg (other rfl), if_neg (other rfl), if_pos h]

/-- A plain word is a name as it stands. -/
theorem reads_word {s : String} (h : isWord s.toList = true) {c : Char} (hc : EndsName c) :
    Reads between (s.toList ++ [c]) (.name s :: (start c).1) (start c).2 := by
  have ends : (word s.toList).step c = some (endWith (.name s) c) := by simp [step, hc.1]
  cases hs : s.toList with
  | nil =>
    rw [hs] at h
    cases h
  | cons d ds =>
    rw [hs] at h ends
    simp only [isWord, List.isEmpty_cons, Bool.not_false, Bool.true_and, List.all_eq_true] at h
    obtain ⟨hd, hds⟩ := List.forall_mem_cons.1 h
    have first : between.step d = some ([], word [d]) := congrArg some (start_wordChar hd)
    exact (Reads.silent first (reads_wordChars hds [d])).endWith ends

theorem reads_quotedChars (cs : List Char) (front : List Char) :
    Reads (quoted front) (Text.replaceChar backquote [backquote, backquote] cs) [] (quoted (front ++ cs)) := by
  induction cs generalizing front with
  | nil => simpa [Text.replaceChar] using Reads.nil (quoted front)
  | cons c cs ih =>
    have here : Reads (quoted front) (if c = backquote then [backquote, backquote] else [c]) []
        (quoted (front ++ [c])) := by
      split
      · subst c
        have first : (quoted front).step backquote = some ([], quotedEnd front) := by simp [step]
        exact .silent first (.single (by simp [step]))
      · rename_i other
        exact .single (by simp [step, other])
    simpa [Text.replaceChar] using here.append (ih (front ++ [c]))

/-- A name is read back, whatever it holds. -/
theorem reads_identifier (s : String) {c : Char} (hc : EndsName c) :
    Reads between ((identifier s).toList ++ [c]) (.name s :: (start c).1) (start c).2 := by
  rw [identifier]
  split
  · rename_i h
    exact reads_word h hc
  · have opened : Reads between [backquote] [] (quoted []) := .single rfl
    have closed : Reads (quoted s.toList) [backquote] [] (quotedEnd s.toList) := .single (by simp [step])
    have ends : (quotedEnd s.toList).step c = some (endWith (.name s) c) := by simp [step, hc.2]
    simpa using (opened.append ((reads_quotedChars s.toList []).append closed)).endWith ends

/-! ## Strings -/

theorem reads_stringChars (cs : List Char) (front : List Char) :
    Reads (string front) (cs.flatMap stringChar) [] (string (front ++ cs)) := by
  induction cs generalizing front with
  | nil => simpa using Reads.nil (string front)
  | cons c cs ih =>
    have here : Reads (string front) (stringChar c) [] (string (front ++ [c])) := by
      have escapes : (string front).step '\\' = some ([], escape front) := by simp [step, singleQuote]
      rw [stringChar]
      split
      · subst c
        exact .silent escapes (.single rfl)
      split
      · subst c
        exact .silent escapes (.single rfl)
      · rename_i backslash quote
        exact .single (by simp [step, backslash, quote])
    simpa using here.append (ih (front ++ [c]))

/-- A string is read back, whatever it holds. -/
theorem reads_stringLiteral (s : String) (h : r.step singleQuote = some ([], string [])) :
    Reads r (stringLiteral s).toList [.string s] between := by
  have closed : Reads (string s.toList) [singleQuote] [.string s] between := .single (by simp [step])
  simpa [stringLiteral] using (Reads.single h).append ((reads_stringChars s.toList []).append closed)

/-! ## Bare values -/

theorem reads_runChars {cs : List Char} (h : ∀ c ∈ cs, isRunChar c = true) (front : List Char) :
    Reads (literal front) cs [] (literal (front ++ cs)) := by
  induction cs generalizing front with
  | nil => simpa using Reads.nil (literal front)
  | cons c cs ih =>
    obtain ⟨hc, hcs⟩ := List.forall_mem_cons.1 h
    have here : (literal front).step c = some ([], literal (front ++ [c])) := by simp [step, hc]
    simpa using Reads.silent here (ih hcs (front ++ [c]))

theorem isRunChar_of_isNumericChar {c : Char} (h : Decimal.isNumericChar c = true) : isRunChar c = true := by
  simp only [Decimal.isNumericChar, Bool.or_eq_true, beq_iff_eq] at h
  rcases h with ((h | rfl) | rfl) | rfl
  · rw [isRunChar, isWordChar, h, Bool.true_or, Bool.true_or]
  all_goals rfl

theorem isRunChar_of_isBare {cs : List Char} (h : isBare cs = true) : ∀ c ∈ cs, isRunChar c = true := by
  simp only [isBare, Bool.or_eq_true, decide_eq_true_eq] at h
  rcases h with (h | h) | h
  · exact fun c hc => isRunChar_of_isNumericChar (Decimal.isNumericChar_of_name h rfl c hc)
  · exact fun c hc => isRunChar_of_isNumericChar (Decimal.isNumericChar_of_name h rfl c hc)
  · exact fun c hc => by rw [isRunChar, List.all_eq_true.1 h c hc, Bool.or_true]

/-- A bare value is read back after an equals sign. -/
theorem reads_bare {s : String} (h : isBare s.toList = true) (given : s ≠ "") {c : Char}
    (hc : isRunChar c = false) : Reads value (s.toList ++ [c]) (.literal s :: (start c).1) (start c).2 := by
  have ends : (literal s.toList).step c = some (endWith (.literal s) c) := by simp [step, hc, h]
  obtain ⟨d, ds, hs⟩ := List.exists_cons_of_ne_nil (mt String.toList_eq_nil_iff.1 given)
  rw [hs] at h ends ⊢
  obtain ⟨hd, hds⟩ := List.forall_mem_cons.1 (isRunChar_of_isBare h)
  have first : value.step d = some ([], literal [d]) := by
    rw [step, if_neg (not_or.2 ⟨ne_of_class hd rfl, ne_of_class hd rfl⟩), if_pos hd]
  exact (Reads.silent first (reads_runChars hds [d])).endWith ends

end Reading

/-! ## Scripts -/

/-- The tokens of a script. -/
def lex (script : String) : Option (List Token) := do
  let (front, r) ← Reading.between.feed script.toList
  let back ← r.finish
  pure (front ++ back)

/-- The tokens of each statement, up to its semicolon; the last one has to have one. -/
def sentences : List Token → Option (List (List Token))
  | [] => some []
  | t :: ts => do
    let rest ← sentences ts
    if t = .symbol ';' then pure ([t] :: rest)
    else
      match rest with
      | [] => none
      | s :: rest => pure ((t :: s) :: rest)

/-- The statements of a script, each as its tokens. -/
def readScript (script : String) : Option (List (List Token)) := (lex script).bind sentences

/-- The tokens are those of one statement. -/
def OneSentence (ts : List Token) : Prop := ∃ body, ts = body ++ [.symbol ';'] ∧ .symbol ';' ∉ body

theorem sentences_append {ts us : List Token} (h : OneSentence ts) :
    sentences (ts ++ us) = (sentences us).map (ts :: ·) := by
  obtain ⟨body, rfl, hbody⟩ := h
  induction body with
  | nil =>
    rw [List.nil_append, List.singleton_append, sentences]
    cases sentences us <;> rfl
  | cons t body ih =>
    obtain ⟨ht, hbody⟩ := not_or.1 (mt List.mem_cons.2 hbody)
    rw [List.cons_append, List.cons_append, sentences, ih hbody]
    cases sentences us with
    | none => rfl
    | some rest => simp [Ne.symm ht]

theorem sentences_flatten {tss : List (List Token)} (h : ∀ ts ∈ tss, OneSentence ts) :
    sentences tss.flatten = some tss := by
  induction tss with
  | nil => rfl
  | cons ts tss ih =>
    obtain ⟨first, rest⟩ := List.forall_mem_cons.1 h
    rw [List.flatten_cons, sentences_append first, ih rest, Option.map_some]

end MetaGraph.Cypher

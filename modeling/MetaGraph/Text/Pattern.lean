/-
Regular expressions: what a pattern means, and how its text is read. A
pattern is matched by following all places it can lead to at once, so that
matching takes time proportional to the text for a pattern without counts.
-/
import MetaGraph.Decimal.Reader
import MetaGraph.Text.Blank
import MetaGraph.Text.Digit
import MetaGraph.Text.Word

namespace MetaGraph.Text

/-- A regular expression. -/
inductive Pattern where
  | nothing
  /-- One character of a set. -/
  | one (allowed : Char → Bool)
  | textStart
  | textEnd
  /-- A place at the edge of a word, or one that is not. -/
  | wordEdge (wanted : Bool)
  | followedBy (a b : Pattern)
  | either (a b : Pattern)
  /-- At least `least` times, and at most `most` times if that is given. -/
  | times (a : Pattern) (least : Nat) (most : Option Nat)

namespace Pattern

/-! ## Matching -/

/-- A place in a text: the character before it, and the text after it. -/
structure Place where
  before : Option Char
  rest : List Char
deriving DecidableEq, Repr

/-- The places of one text, each once. -/
def distinct (places : List Place) : List Place :=
  places.foldr (fun p kept =>
    if kept.any fun q => q.rest.length == p.rest.length then kept else p :: kept) []

/-- Whether a word starts or ends here. -/
def Place.isEdge (p : Place) : Bool :=
  let inWord (c : Option Char) : Bool :=
    match c with
    | some c => Text.isWord c
    | none => false
  inWord p.before != inWord p.rest.head?

/-- The places reached from `places` by at most `n` steps. -/
def within (step : Place → List Place) : Nat → List Place → List Place
  | 0, places => places
  | n + 1, places => within step n (distinct (places ++ places.flatMap step))

/-- The places reached from `places` by exactly `n` steps. -/
def exactly (step : Place → List Place) : Nat → List Place → List Place
  | 0, places => places
  | n + 1, places => exactly step n (distinct (places.flatMap step))

/-- The places at which a match that starts at `p` can end. -/
def ends : Pattern → Place → List Place
  | nothing, p => [p]
  | one allowed, p =>
    match p.rest with
    | c :: rest => if allowed c then [⟨some c, rest⟩] else []
    | [] => []
  | textStart, p => if p.before = none then [p] else []
  | textEnd, p => if p.rest = [] then [p] else []
  | wordEdge wanted, p => if p.isEdge = wanted then [p] else []
  | followedBy a b, p => distinct ((ends a p).flatMap (ends b))
  | either a b, p => distinct (ends a p ++ ends b p)
  | times a least most, p =>
    let first := exactly (ends a) least [p]
    match most with
    | some most => within (ends a) (most - least) first
    | none => within (ends a) (p.rest.length + 1) first

/-- The places of a text, from its start to its end. -/
def places (before : Option Char) : List Char → List Place
  | [] => [⟨before, []⟩]
  | c :: cs => ⟨before, c :: cs⟩ :: places (some c) cs

/-- Whether the whole text matches. -/
def matchesAll (a : Pattern) (s : String) : Bool :=
  (a.ends ⟨none, s.toList⟩).any fun p => p.rest.isEmpty

/-- Whether some part of the text matches. -/
def matchesPart (a : Pattern) (s : String) : Bool :=
  (places none s.toList).any fun p => !(a.ends p).isEmpty

/-! ## Reading -/

/-- What a reader takes from the front of a text. -/
abbrev Scan (α : Type) := List Char → Option (α × List Char)

/-- The character a hexadecimal escape stands for: `n` digits, or any number of
them between braces. -/
def hexEscape? (n : Nat) (cs : List Char) : Option (Char × List Char) := do
  let (digits, rest) ←
    match cs with
    | '\x7b' :: cs =>
      let body := cs.takeWhile (· ≠ '\x7d')
      if cs.length = body.length then none else some (body, cs.drop (body.length + 1))
    | cs => if cs.length < n then none else some (cs.take n, cs.drop n)
  let values ← digits.mapM Decimal.hexDigit?
  let code := values.foldl (fun m d => m * 16 + d) 0
  if values ≠ [] ∧ code.isValidChar then some (Char.ofNat code, rest) else none

/-- The set of characters an escape stands for, after its backslash. -/
def setEscape? : Scan (Char → Bool)
  | 'd' :: cs => some (isDecimalDigit, cs)
  | 'D' :: cs => some (fun c => !isDecimalDigit c, cs)
  | 's' :: cs => some (isBlank, cs)
  | 'S' :: cs => some (fun c => !isBlank c, cs)
  | 'w' :: cs => some (Text.isWord, cs)
  | 'W' :: cs => some (fun c => !Text.isWord c, cs)
  | _ => none

/-- The character an escape stands for, after its backslash. -/
def charEscape? : Scan Char
  | 'a' :: cs => some ('\x07', cs)
  | 'f' :: cs => some ('\x0c', cs)
  | 't' :: cs => some ('\t', cs)
  | 'n' :: cs => some ('\n', cs)
  | 'r' :: cs => some ('\r', cs)
  | 'v' :: cs => some ('\x0b', cs)
  | 'x' :: cs => hexEscape? 2 cs
  | 'u' :: cs => hexEscape? 4 cs
  | 'U' :: cs => hexEscape? 8 cs
  | c :: cs =>
    if c.toNat < 128 && !c.isAlphanum && c ≠ '<' && c ≠ '>' then some (c, cs) else none
  | [] => none

/-- A character of a class, which may be an escape. -/
def classChar? : Scan Char
  | '\\' :: cs => charEscape? cs
  | c :: cs => some (c, cs)
  | [] => none

/-- The items of a class up to its closing bracket; `first` while none is read. -/
def class? : Nat → Bool → (Char → Bool) → Scan (Char → Bool)
  | 0, _, _, _ => none
  | fuel + 1, first, set, cs => do
    let add (more : Char → Bool) (rest : List Char) := class? fuel false (fun c => set c || more c) rest
    match cs with
    | [] => none
    | ']' :: rest => if first then addRange add cs rest else some (set, rest)
    | '[' :: ':' :: _ => none
    | '[' :: '^' :: rest =>
      let (inner, rest) ← class? fuel true (fun _ => false) rest
      add (fun c => !inner c) rest
    | '[' :: rest =>
      let (inner, rest) ← class? fuel true (fun _ => false) rest
      add inner rest
    | '&' :: '&' :: _ | '-' :: '-' :: _ | '~' :: '~' :: _ => none
    | '\\' :: rest =>
      match setEscape? rest with
      | some (more, rest) => add more rest
      | none => addRange add cs rest
    | _ :: rest => addRange add cs rest
where
  /-- A single character or a range of characters. -/
  addRange (add : (Char → Bool) → List Char → Option ((Char → Bool) × List Char))
      (cs _rest : List Char) : Option ((Char → Bool) × List Char) := do
    let (lo, rest) ← classChar? cs
    match rest with
    | '-' :: ']' :: _ => add (fun c => c == lo) rest
    | '-' :: rest =>
      let (hi, rest) ← classChar? rest
      if lo ≤ hi then add (fun c => lo ≤ c && c ≤ hi) rest else none
    | rest => add (fun c => c == lo) rest

/-- A count in decimal digits. -/
def count? : Scan Nat := fun cs =>
  let ds := cs.takeWhile Char.isDigit
  if ds = [] then none else some (Decimal.digitsValue ds, cs.drop ds.length)

/-- The counts between braces, after the opening one. -/
def bounds? : Scan (Nat × Option Nat) := fun cs => do
  let (least, rest) ← count? (trimFront cs)
  match trimFront rest with
  | '\x7d' :: rest => some ((least, some least), rest)
  | ',' :: rest =>
    match trimFront rest with
    | '\x7d' :: rest => some ((least, none), rest)
    | rest =>
      let (most, rest) ← count? rest
      match trimFront rest with
      | '\x7d' :: rest => if least ≤ most then some ((least, some most), rest) else none
      | _ => none
  | _ => none

/-- A pattern with the counts that follow it. A question mark after a count
changes nothing about what matches. -/
def counted? : Nat → Pattern → Scan Pattern
  | 0, _, _ => none
  | fuel + 1, a, cs => do
    let some ((least, most), rest) ←
      (match cs with
        | '*' :: rest => some (some ((0, none), rest))
        | '+' :: rest => some (some ((1, none), rest))
        | '?' :: rest => some (some ((0, some 1), rest))
        | '\x7b' :: rest => (bounds? rest).map some
        | _ => some none) | some (a, cs)
    let rest :=
      match rest with
      | '?' :: rest => rest
      | rest => rest
    counted? fuel (times a least most) rest

/-- A dot stands for any character that ends no line. -/
def isInLine (c : Char) : Bool := c ≠ '\n' && c ≠ '\r'

mutual

/-- A single item without counts. -/
def atom? : Nat → Scan Pattern
  | 0, _ => none
  | fuel + 1, cs =>
    match cs with
    | [] => none
    | '(' :: '?' :: ':' :: rest => group? fuel rest
    | '(' :: '?' :: 'P' :: '<' :: rest => group? fuel ((rest.dropWhile (· ≠ '>')).drop 1)
    | '(' :: '?' :: '<' :: rest => group? fuel ((rest.dropWhile (· ≠ '>')).drop 1)
    | '(' :: '?' :: _ => none
    | '(' :: rest => group? fuel rest
    | '[' :: '^' :: rest =>
      (class? (rest.length + 1) true (fun _ => false) rest).map fun (set, rest) =>
        (one fun c => !set c, rest)
    | '[' :: rest =>
      (class? (rest.length + 1) true (fun _ => false) rest).map fun (set, rest) => (one set, rest)
    | '.' :: rest => some (one isInLine, rest)
    | '^' :: rest => some (textStart, rest)
    | '$' :: rest => some (textEnd, rest)
    | '\\' :: 'A' :: rest => some (textStart, rest)
    | '\\' :: 'z' :: rest => some (textEnd, rest)
    | '\\' :: 'b' :: rest => some (wordEdge true, rest)
    | '\\' :: 'B' :: rest => some (wordEdge false, rest)
    | '\\' :: rest =>
      match setEscape? rest with
      | some (set, rest) => some (one set, rest)
      | none => (charEscape? rest).map fun (c, rest) => (one (· == c), rest)
    | c :: rest =>
      if c = '*' ∨ c = '+' ∨ c = '?' ∨ c = '\x7b' ∨ c = '|' ∨ c = ')' then none
      else some (one (· == c), rest)

/-- The rest of a group, with its closing parenthesis. -/
def group? : Nat → Scan Pattern
  | 0, _ => none
  | fuel + 1, cs => do
    let (a, rest) ← choices? fuel cs
    match rest with
    | ')' :: rest => some (a, rest)
    | _ => none

/-- Items one after the other, up to a bar, a closing parenthesis or the end. -/
def sequence? : Nat → Scan Pattern
  | 0, _ => none
  | fuel + 1, cs =>
    match cs with
    | [] => some (nothing, [])
    | '|' :: _ | ')' :: _ => some (nothing, cs)
    | cs => do
      let (a, rest) ← atom? fuel cs
      let (a, rest) ← counted? (rest.length + 1) a rest
      let (b, rest) ← sequence? fuel rest
      some (followedBy a b, rest)

/-- Sequences with bars between them. -/
def choices? : Nat → Scan Pattern
  | 0, _ => none
  | fuel + 1, cs => do
    let (a, rest) ← sequence? fuel cs
    match rest with
    | '|' :: rest =>
      let (b, rest) ← choices? fuel rest
      some (either a b, rest)
    | rest => some (a, rest)

end

/-- The pattern a text writes. -/
def parse? (s : String) : Option Pattern := do
  let (a, rest) ← choices? (4 * s.length + 4) s.toList
  if rest = [] then some a else none

end Pattern

end MetaGraph.Text

/-
Reading queries. Blanks may stand between segments and around the parts of
a bracket or a condition, but nowhere else. A query that is compared has to
select at most one value, which its form shows.
-/
import MetaGraph.Json.Parser
import MetaGraph.JsonPath.Query

namespace MetaGraph.JsonPath

/-- What a reader takes from the front of a text. -/
abbrev Scan (α : Type) := List Char → Option (α × List Char)

open Json (skipBlanks)

/-- The text after the character `c`. -/
def after? (c : Char) : List Char → Option (List Char)
  | d :: cs => if d = c then some cs else none
  | [] => none

/-! ## Names, texts and numbers -/

def isNameStart (c : Char) : Bool := c.isAlpha || c == '_' || 0x80 ≤ c.toNat

def isNameChar (c : Char) : Bool := isNameStart c || c.isDigit

/-- A name without quotes. -/
def name? : Scan String
  | c :: cs =>
    if isNameStart c then
      some (String.ofList (c :: cs.takeWhile isNameChar), cs.dropWhile isNameChar)
    else none
  | [] => none

/-- The rest of a text between the quotes `q`. -/
def quotedRest? (q : Char) : Nat → List Char → Scan String
  | 0, _, _ => none
  | fuel + 1, acc, cs =>
    match cs with
    | [] => none
    | '\\' :: 'u' :: rest => do
      let (c, rest) ← Json.unicodeEscape? rest
      quotedRest? q fuel (c :: acc) rest
    | '\\' :: c :: rest =>
      if c = q then quotedRest? q fuel (q :: acc) rest
      else if c = '"' then none
      else do
        let c ← Json.shortEscape? c
        quotedRest? q fuel (c :: acc) rest
    | c :: rest =>
      if c = q then some (String.ofList acc.reverse, rest)
      else if c.toNat < 32 ∨ c = '\\' then none
      else quotedRest? q fuel (c :: acc) rest

/-- A text between quotes of either kind. -/
def quoted? : Scan String
  | '\'' :: cs => quotedRest? '\'' (cs.length + 1) [] cs
  | '"' :: cs => quotedRest? '"' (cs.length + 1) [] cs
  | _ => none

/-- The digits of an integer, without a zero in front; zero has no sign. -/
def intText? : Scan (List Char)
  | '0' :: cs => some (['0'], cs)
  | '-' :: '0' :: _ => none
  | '-' :: cs =>
    let ds := cs.takeWhile Char.isDigit
    if ds = [] then none else some ('-' :: ds, cs.drop ds.length)
  | cs =>
    let ds := cs.takeWhile Char.isDigit
    if ds = [] then none else some (ds, cs.drop ds.length)

/-- The largest integer that every reader of JSON keeps exact. -/
def maxExact : Int := 9007199254740991

/-- An index: an integer in the range that is exact everywhere. -/
def index? : Scan Int := fun cs => do
  let (text, rest) ← intText? cs
  let n : Int :=
    match text with
    | '-' :: ds => -(Decimal.digitsValue ds : Int)
    | ds => Decimal.digitsValue ds
  if -maxExact ≤ n ∧ n ≤ maxExact then some (n, rest) else none

/-- The fraction of a number, with its point. -/
def fractionText : List Char → List Char × List Char
  | '.' :: cs =>
    let ds := cs.takeWhile Char.isDigit
    if ds = [] then ([], '.' :: cs) else ('.' :: ds, cs.drop ds.length)
  | cs => ([], cs)

/-- The exponent of a number, with its mark. -/
def exponentText : List Char → List Char × List Char
  | e :: cs =>
    if e = 'e' ∨ e = 'E' then
      let (sign, body) :=
        match cs with
        | '-' :: body => (['-'], body)
        | '+' :: body => (['+'], body)
        | body => ([], body)
      let ds := body.takeWhile Char.isDigit
      if ds = [] then ([], e :: cs) else (e :: sign ++ ds, body.drop ds.length)
    else ([], e :: cs)
  | [] => ([], [])

/-- A number, which may also be a negative zero. -/
def numeral? : Scan Json := fun cs => do
  let (whole, rest) ←
    match cs with
    | '-' :: '0' :: rest => some (['-', '0'], rest)
    | cs => intText? cs
  let (fraction, rest) := fractionText rest
  let (exponent, rest) := exponentText rest
  let value ← Json.parse? (String.ofList (whole ++ fraction ++ exponent))
  some (value, rest)

/-- A value written out. -/
def literal? : Scan Json := fun cs =>
  match quoted? cs with
  | some (s, rest) => some (.text s, rest)
  | none =>
    match Json.afterWord? "true" cs, Json.afterWord? "false" cs, Json.afterWord? "null" cs with
    | some rest, _, _ => some (.bool true, rest)
    | _, some rest, _ => some (.bool false, rest)
    | _, _, some rest => some (.null, rest)
    | none, none, none => numeral? cs

/-! ## Queries of at most one value -/

/-- Whether a segment goes to at most one value. -/
def Segment.isSingle : Segment → Bool
  | .of false [.name _] => true
  | .of false [.index _] => true
  | _ => false

/-- Whether a query selects at most one value by its form. -/
def Query.isSingle : Query → Bool
  | .of _ segments => segments.all Segment.isSingle

/-- A segment to a name or an index, without blanks in its bracket. -/
def plainSegment? : Scan Segment
  | '.' :: cs => (name? cs).map fun (name, rest) => (.of false [.name name], rest)
  | '[' :: cs => do
    let (selector, rest) ←
      match quoted? cs with
      | some (name, rest) => some (Selector.name name, rest)
      | none => (index? cs).map fun (i, rest) => (Selector.index i, rest)
    let rest ← after? ']' rest
    some (.of false [selector], rest)
  | _ => none

def plainSegments : Nat → List Char → List Segment × List Char
  | 0, cs => ([], cs)
  | fuel + 1, cs =>
    match plainSegment? (skipBlanks cs) with
    | some (s, rest) =>
      let (ss, rest) := plainSegments fuel rest
      (s :: ss, rest)
    | none => ([], cs)

/-- Where a query starts. -/
def origin? : Scan Bool
  | '$' :: cs => some (true, cs)
  | '@' :: cs => some (false, cs)
  | _ => none

/-- A query that may be compared. -/
def singleQuery? : Scan Query := fun cs => do
  let (absolute, rest) ← origin? cs
  let (segments, rest) := plainSegments (rest.length + 1) rest
  some (.of absolute segments, rest)

/-- The sign of a comparison. -/
def comparison? : Scan Comparison
  | '=' :: '=' :: cs => some (.equal, cs)
  | '!' :: '=' :: cs => some (.unequal, cs)
  | '<' :: '=' :: cs => some (.lessOrEqual, cs)
  | '>' :: '=' :: cs => some (.greaterOrEqual, cs)
  | '<' :: cs => some (.less, cs)
  | '>' :: cs => some (.greater, cs)
  | _ => none

/-- What follows the first bound of a slice, from its colon on. -/
def sliceRest? (start : Option Int) : Scan Selector := fun cs => do
  let rest ← after? ':' cs
  let (stop, rest) :=
    match index? (skipBlanks rest) with
    | some (i, rest) => (some i, rest)
    | none => (none, rest)
  match skipBlanks rest with
  | ':' :: afterColon =>
    match index? (skipBlanks afterColon) with
    | some (i, rest) => some (.slice start stop (some i), rest)
    | none => some (.slice start stop none, afterColon)
  | _ => some (.slice start stop none, rest)

/-- An index or a slice. -/
def indexOrSlice? : Scan Selector := fun cs =>
  match index? cs with
  | some (i, rest) =>
    match sliceRest? (some i) (skipBlanks rest) with
    | some found => some found
    | none => some (.index i, rest)
  | none => sliceRest? none cs

/-! ## Segments and conditions -/

mutual

/-- A selector. -/
def selector? : Nat → Scan Selector
  | 0, _ => none
  | fuel + 1, cs =>
    match cs with
    | '*' :: rest => some (.wildcard, rest)
    | '?' :: rest => (condition? fuel (skipBlanks rest)).map fun (c, rest) => (.filter c, rest)
    | cs =>
      match quoted? cs with
      | some (name, rest) => some (.name name, rest)
      | none => indexOrSlice? cs

/-- Selectors with commas between them, up to the closing bracket. -/
def selectors? : Nat → Scan (List Selector)
  | 0, _ => none
  | fuel + 1, cs => do
    let (s, rest) ← selector? fuel (skipBlanks cs)
    match skipBlanks rest with
    | ',' :: rest =>
      let (ss, rest) ← selectors? fuel rest
      some (s :: ss, rest)
    | ']' :: rest => some ([s], rest)
    | _ => none

/-- What follows the dots of a segment: a star or a name. -/
def shorthand? : Nat → Scan Selector
  | _, '*' :: rest => some (.wildcard, rest)
  | _, cs => (name? cs).map fun (name, rest) => (.name name, rest)

def segment? : Nat → Scan Segment
  | 0, _ => none
  | fuel + 1, cs =>
    match cs with
    | '[' :: rest => (selectors? fuel rest).map fun (ss, rest) => (.of false ss, rest)
    | '.' :: '.' :: '[' :: rest => (selectors? fuel rest).map fun (ss, rest) => (.of true ss, rest)
    | '.' :: '.' :: rest => (shorthand? fuel rest).map fun (s, rest) => (.of true [s], rest)
    | '.' :: rest => (shorthand? fuel rest).map fun (s, rest) => (.of false [s], rest)
    | _ => none

/-- The segments that follow, as far as there are any. -/
def segments : Nat → List Char → List Segment × List Char
  | 0, cs => ([], cs)
  | fuel + 1, cs =>
    match segment? fuel (skipBlanks cs) with
    | some (s, rest) =>
      let (ss, rest) := segments fuel rest
      (s :: ss, rest)
    | none => ([], cs)

/-- A query, from the root or from the current value. -/
def query? : Nat → Scan Query
  | 0, _ => none
  | fuel + 1, cs => do
    let (absolute, rest) ← origin? cs
    let (segments, rest) := segments fuel rest
    some (.of absolute segments, rest)

/-- The value a function makes: a length, a count or the only value of a query. -/
def call? : Nat → Scan Operand
  | 0, _ => none
  | fuel + 1, cs => do
    let (name, rest) ← name? cs
    let rest ← after? '(' rest
    let (result, rest) ←
      if name = "length" then
        (argument? fuel (skipBlanks rest)).map fun (a, rest) => (Operand.length a, rest)
      else if name = "count" then
        (query? fuel (skipBlanks rest)).map fun (q, rest) => (Operand.count q, rest)
      else if name = "value" then
        (query? fuel (skipBlanks rest)).map fun (q, rest) => (Operand.only q, rest)
      else none
    let rest ← after? ')' (skipBlanks rest)
    some (result, rest)

/-- An argument that stands for one value. -/
def argument? : Nat → Scan Operand
  | 0, _ => none
  | fuel + 1, cs =>
    match literal? cs with
    | some (v, rest) => some (.literal v, rest)
    | none =>
      match query? fuel cs with
      | some (q, rest) => if q.isSingle then some (.only q, rest) else none
      | none => call? fuel cs

/-- One side of a comparison. -/
def operand? : Nat → Scan Operand
  | 0, _ => none
  | fuel + 1, cs =>
    match literal? cs with
    | some (v, rest) => some (.literal v, rest)
    | none =>
      match singleQuery? cs with
      | some (q, rest) => some (.only q, rest)
      | none => call? fuel cs

/-- Two operands with the sign of a comparison between them. -/
def compared? : Nat → Scan Condition
  | 0, _ => none
  | fuel + 1, cs => do
    let (a, rest) ← operand? fuel cs
    let (op, rest) ← comparison? (skipBlanks rest)
    let (b, rest) ← operand? fuel (skipBlanks rest)
    some (.compare op a b, rest)

/-- A query that has to select something, or a match of a pattern. -/
def test? : Nat → Scan Condition
  | 0, _ => none
  | fuel + 1, cs =>
    match query? fuel cs with
    | some (q, rest) => some (.nonempty q, rest)
    | none => do
      let (name, rest) ← name? cs
      let rest ← after? '(' rest
      if name = "match" ∨ name = "search" then
        let (text, rest) ← argument? fuel (skipBlanks rest)
        let rest ← after? ',' (skipBlanks rest)
        let (pattern, rest) ← argument? fuel (skipBlanks rest)
        let rest ← after? ')' (skipBlanks rest)
        some (.matching (name = "match") text pattern, rest)
      else none

/-- A condition between parentheses, after the opening one. -/
def enclosed? : Nat → Scan Condition
  | 0, _ => none
  | fuel + 1, cs => do
    let (c, rest) ← condition? fuel (skipBlanks cs)
    let rest ← after? ')' (skipBlanks rest)
    some (c, rest)

/-- A condition without signs that join conditions. -/
def basic? : Nat → Scan Condition
  | 0, _ => none
  | fuel + 1, cs =>
    match cs with
    | '(' :: rest => enclosed? fuel rest
    | '!' :: rest =>
      match skipBlanks rest with
      | '(' :: rest => (enclosed? fuel rest).map fun (c, rest) => (.negation c, rest)
      | rest => (test? fuel rest).map fun (c, rest) => (.negation c, rest)
    | cs =>
      match compared? fuel cs with
      | some found => some found
      | none => test? fuel cs

/-- Conditions that all have to hold. -/
def conjunction? : Nat → Scan Condition
  | 0, _ => none
  | fuel + 1, cs => do
    let (a, rest) ← basic? fuel cs
    match skipBlanks rest with
    | '&' :: '&' :: rest =>
      let (b, rest) ← conjunction? fuel (skipBlanks rest)
      some (.both a b, rest)
    | _ => some (a, rest)

/-- A condition. -/
def condition? : Nat → Scan Condition
  | 0, _ => none
  | fuel + 1, cs => do
    let (a, rest) ← conjunction? fuel cs
    match skipBlanks rest with
    | '|' :: '|' :: rest =>
      let (b, rest) ← condition? fuel (skipBlanks rest)
      some (.either a b, rest)
    | _ => some (a, rest)

end

/-- The query a text writes: a path from the root, and nothing after it. -/
def Query.parse? (cs : List Char) : Option Query := do
  let (q, rest) ← query? (12 * cs.length + 12) cs
  match q with
  | .of true _ => if rest = [] then some q else none
  | .of false _ => none

end MetaGraph.JsonPath

/-
Unions of queries. Bars outside quotes, brackets and parentheses divide an
expression into queries, whose values are put one after the other. A query
may stand in parentheses, and its start at the root need not be written.
-/
import MetaGraph.JsonPath.Reader
import MetaGraph.Rest.Error

namespace MetaGraph

/-- A union of queries, with the text it was read from. -/
structure JsonPath where
  source : String
  parts : List JsonPath.Query

namespace JsonPath

/-! ## Dividing -/

/-- Where in an expression a scan stands: how deep in brackets and parentheses,
in which quotes, and whether right after a backslash in them. -/
structure Scanner where
  depth : Nat := 0
  quote : Option Char := none
  escaped : Bool := false
deriving DecidableEq, Repr

namespace Scanner

/-- Whether `c` divides the expression here. -/
def divides (s : Scanner) (c : Char) : Bool := s.quote.isNone && s.depth == 0 && c == '|'

/-- The scan after one more character. -/
def step (s : Scanner) (c : Char) : Scanner :=
  match s.quote with
  | some q =>
    if s.escaped then { s with escaped := false }
    else if c = '\\' then { s with escaped := true }
    else if c = q then { s with quote := none }
    else s
  | none =>
    if c = '\'' ∨ c = '"' then { s with quote := some c }
    else if c = '[' ∨ c = '(' then { s with depth := s.depth + 1 }
    else if c = ']' ∨ c = ')' then { s with depth := s.depth - 1 }
    else s

end Scanner

/-- The parts of an expression between the bars that divide it. -/
def divide : Scanner → List Char → List (List Char)
  | _, [] => [[]]
  | s, c :: cs =>
    if s.divides c then [] :: divide s cs
    else
      match divide (s.step c) cs with
      | part :: parts => (c :: part) :: parts
      | [] => [[c]]

/-- The members of a union. -/
def splitUnion (cs : List Char) : List (List Char) := divide {} cs

/-! ## Completing -/

/-- Whether the parenthesis at the front closes only at the end; quotes do not count. -/
def enclosesFrom : Nat → List Char → Bool
  | _, [] => false
  | depth, '(' :: cs => enclosesFrom (depth + 1) cs
  | depth, ')' :: cs => if depth ≤ 1 then cs = [] else enclosesFrom (depth - 1) cs
  | depth, _ :: cs => enclosesFrom depth cs

/-- Whether one pair of parentheses encloses everything. -/
def isEnclosed (cs : List Char) : Bool :=
  cs.head? == some '(' && cs.getLast? == some ')' && enclosesFrom 0 cs

/-- The expression without the parentheses that enclose all of it. -/
def stripParens : Nat → List Char → List Char
  | 0, cs => cs
  | fuel + 1, cs =>
    if isEnclosed cs then stripParens fuel (Text.trimChars (cs.drop 1).dropLast) else cs

/-- The query of a part, with its start at the root written out. -/
def complete (part : List Char) : List Char :=
  let part := Text.trimChars part
  let part := stripParens part.length part
  match part with
  | '$' :: _ => part
  | '[' :: _ => '$' :: part
  | _ => '$' :: '.' :: part

/-! ## Reading and selecting -/

/-- What is said about a text that is no query. -/
def diagnosis : String := "not a JSONPath query"

/-- The union an expression writes. -/
def parse (expression : String) : Except RestError JsonPath := do
  let parts ← (splitUnion expression.toList).mapM fun part =>
    match Query.parse? (complete part) with
    | some q => .ok q
    | none => .error (RestError.invalidJsonPath expression diagnosis)
  pure ⟨expression, parts⟩

/-- All values selected, query by query. -/
def find (p : JsonPath) (v : Json) : List Json := p.parts.flatMap fun q => q.select v v

/-- Whether several queries are united. -/
def isUnion (p : JsonPath) : Bool := 1 < p.parts.length

end JsonPath

end MetaGraph

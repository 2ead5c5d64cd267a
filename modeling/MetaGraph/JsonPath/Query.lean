/-
Queries on JSON values: what a query is and which values it selects. A query
starts at the root or at the current value and goes on by segments, each of
which takes every value selected so far to the values it selects from there.
-/
import MetaGraph.Json.Basic
import MetaGraph.Text.Pattern

namespace MetaGraph.JsonPath

/-- How two operands are compared. -/
inductive Comparison where
  | equal
  | unequal
  | less
  | lessOrEqual
  | greater
  | greaterOrEqual
deriving DecidableEq, Repr

mutual

/-- Which children of a value are selected. -/
inductive Selector where
  | name (name : String)
  | wildcard
  | index (i : Int)
  | slice (start stop step : Option Int)
  | filter (condition : Condition)

/-- A step of a query: selectors applied to a value, or to it and all its
descendants. -/
inductive Segment where
  | of (descends : Bool) (selectors : List Selector)

/-- A query from the root or from the current value. -/
inductive Query where
  | of (absolute : Bool) (segments : List Segment)

/-- A condition on a value. -/
inductive Condition where
  | either (a b : Condition)
  | both (a b : Condition)
  | negation (a : Condition)
  | nonempty (q : Query)
  | compare (op : Comparison) (a b : Operand)
  /-- Whether a pattern matches a text, as a whole or in part. -/
  | matching (whole : Bool) (text pattern : Operand)

/-- What can be compared. -/
inductive Operand where
  | literal (value : Json)
  /-- The only value a query selects. -/
  | only (q : Query)
  | length (a : Operand)
  | count (q : Query)

end

/-! ## The values of a value -/

/-- The children of a value, in their order. -/
def children : Json → List Json
  | .array items => items
  | .object members => members.map Prod.snd
  | _ => []

mutual

/-- The value itself and everything below it, each value before what is below it. -/
def descendants : Json → List Json
  | .array items => .array items :: descendantsOfItems items
  | .object members => .object members :: descendantsOfMembers members
  | v => [v]

def descendantsOfItems : List Json → List Json
  | [] => []
  | v :: vs => descendants v ++ descendantsOfItems vs

def descendantsOfMembers : List (String × Json) → List Json
  | [] => []
  | (_, v) :: ms => descendants v ++ descendantsOfMembers ms

end

/-- The item at an index; a negative index counts from the end. -/
def itemAt (items : List Json) (i : Int) : Option Json :=
  let i := if i < 0 then items.length + i else i
  if i < 0 then none else items[i.toNat]?

/-- The indices from `i` on by steps of `step`, as long as they lie between the
bounds; both are shut out. -/
def indicesBetween (lo hi step : Int) : Nat → Int → List Int
  | 0, _ => []
  | fuel + 1, i => if lo < i ∧ i < hi then i :: indicesBetween lo hi step fuel (i + step) else []

/-- The items of a slice. -/
def slice (items : List Json) (start stop step : Option Int) : List Json :=
  let len : Int := items.length
  let step := step.getD 1
  let fromEnd (i : Int) : Int := if i < 0 then len + i else i
  let indices :=
    if 0 < step then
      let lo := max 0 (min len (fromEnd (start.getD 0)))
      let hi := max 0 (min len (fromEnd (stop.getD len)))
      indicesBetween (lo - 1) hi step items.length lo
    else if step < 0 then
      let hi := max (-1) (min (len - 1) (fromEnd (start.getD (len - 1))))
      let lo := max (-1) (min (len - 1) (fromEnd (stop.getD (-len - 1))))
      indicesBetween lo (hi + 1) step items.length hi
    else []
  indices.filterMap fun i => items[i.toNat]?

/-! ## Comparing -/

/-- The number of a value, rounded to a float. -/
def numberOf? : Json → Option Binary64
  | .int n => some (Binary64.ofInt n)
  | .float x => some x
  | _ => none

/-- Two values are equal if they are the same, or numbers of one size. -/
def equalValues (a b : Json) : Bool :=
  match numberOf? a, numberOf? b with
  | some x, some y => x.same y
  | _, _ => a = b

/-- Numbers are ordered by size and texts by their characters; nothing else is ordered. -/
def lessValues (a b : Json) : Bool :=
  match a, b with
  | .text s, .text t => s < t
  | a, b =>
    match numberOf? a, numberOf? b with
    | some x, some y => x.compare? y == some .lt
    | _, _ => false

/-- Compares two operands, of which either may have no value. -/
def Comparison.holds (op : Comparison) (a b : Option Json) : Bool :=
  let equal (a b : Option Json) : Bool :=
    match a, b with
    | some a, some b => equalValues a b
    | none, none => true
    | _, _ => false
  let less (a b : Option Json) : Bool :=
    match a, b with
    | some a, some b => lessValues a b
    | _, _ => false
  match op with
  | .equal => equal a b
  | .unequal => !equal a b
  | .less => less a b
  | .lessOrEqual => less a b || equal a b
  | .greater => less b a
  | .greaterOrEqual => less b a || equal a b

/-- How long a text, an array or an object is. -/
def lengthOf : Json → Option Json
  | .text s => some (.int s.length)
  | .array items => some (.int items.length)
  | .object members => some (.int members.length)
  | _ => none

/-- Whether the pattern that `pattern` writes matches the text `text`. -/
def textMatches (whole : Bool) (text pattern : Option Json) : Bool :=
  match text, pattern with
  | some (.text s), some (.text p) =>
    match Text.Pattern.parse? p with
    | some p => if whole then p.matchesAll s else p.matchesPart s
    | none => false
  | _, _ => false

/-! ## Selecting -/

mutual

/-- The values a selector selects from `current`. -/
def Selector.select (root current : Json) : Selector → List Json
  | .name name =>
    match current with
    | .object members => (KeyMap.get? members name).toList
    | _ => []
  | .wildcard => children current
  | .index i =>
    match current with
    | .array items => (itemAt items i).toList
    | _ => []
  | .slice start stop step =>
    match current with
    | .array items => slice items start stop step
    | _ => []
  | .filter condition => (children current).filter fun v => condition.holds root v

/-- The values several selectors select, one after the other. -/
def selectAll (root current : Json) : List Selector → List Json
  | [] => []
  | s :: ss => s.select root current ++ selectAll root current ss

/-- The values a segment leads to from `current`. -/
def Segment.select (root current : Json) : Segment → List Json
  | .of false selectors => selectAll root current selectors
  | .of true selectors => (descendants current).flatMap fun v => selectAll root v selectors

/-- The values reached from `values` by following the segments. -/
def follow (root : Json) (values : List Json) : List Segment → List Json
  | [] => values
  | s :: ss => follow root (values.flatMap fun v => s.select root v) ss

/-- The values a query selects. -/
def Query.select (root current : Json) : Query → List Json
  | .of absolute segments => follow root [if absolute then root else current] segments

/-- Whether a value meets a condition. -/
def Condition.holds (root current : Json) : Condition → Bool
  | .either a b => a.holds root current || b.holds root current
  | .both a b => a.holds root current && b.holds root current
  | .negation a => !a.holds root current
  | .nonempty q => !(q.select root current).isEmpty
  | .compare op a b => op.holds (a.value root current) (b.value root current)
  | .matching whole text pattern =>
    textMatches whole (text.value root current) (pattern.value root current)

/-- The value of an operand, if it has one. -/
def Operand.value (root current : Json) : Operand → Option Json
  | .literal value => some value
  | .only q =>
    match q.select root current with
    | [v] => some v
    | _ => none
  | .length a => (a.value root current).bind lengthOf
  | .count q => some (.int (q.select root current).length)

end

end MetaGraph.JsonPath

/-
What a run has already emitted of the nodes and relations that many records
share. A record that wants to emit such an element claims it first, and only
the first claim of a run succeeds.
-/
import MetaGraph.Graph.Element

namespace MetaGraph

/-- The text that identifies a relation among the claimed ones: both ends and
the forward type. -/
def Relation.identity (r : Relation) : String :=
  "(" ++ r.startLabel ++ ":" ++ r.startKey ++ ")-[" ++ r.kind ++ "]->(" ++
    r.endLabel ++ ":" ++ r.endKey ++ ")"

/-- The claimed node keys and relation identities of a run. Neither list repeats
an entry; the order is that of the claims, latest first. -/
structure Claims where
  nodes : List String := []
  relations : List String := []
deriving DecidableEq, Repr, Inhabited

namespace Claims

def empty : Claims := {}

def contains (c : Claims) (key : String) : Bool := c.nodes.contains key

def containsRelation (c : Claims) (r : Relation) : Bool := c.relations.contains r.identity

/-- Claims a node key: whether this is its first claim, and the claims after it. -/
def claim (c : Claims) (key : String) : Bool × Claims :=
  if c.contains key then (false, c) else (true, { c with nodes := key :: c.nodes })

/-- Claims a relation: whether this is its first claim, and the claims after it. -/
def claimRelation (c : Claims) (r : Relation) : Bool × Claims :=
  if c.containsRelation r then (false, c)
  else (true, { c with relations := r.identity :: c.relations })

/-- How many nodes and relations are claimed. -/
def size (c : Claims) : Nat := c.nodes.length + c.relations.length

def isEmpty (c : Claims) : Bool := c.size == 0

/-- The relations whose claim succeeds, claimed in order. -/
def claimRelations : Claims → List Relation → List Relation × Claims
  | c, [] => ([], c)
  | c, r :: rs =>
    let (first, c) := c.claimRelation r
    let (kept, c) := c.claimRelations rs
    (if first then r :: kept else kept, c)

/-- The nodes whose claim succeeds, claimed by their keys in order. -/
def claimNodes : Claims → List Node → List Node × Claims
  | c, [] => ([], c)
  | c, n :: ns =>
    let (first, c) := c.claim n.key
    let (kept, c) := c.claimNodes ns
    (if first then n :: kept else kept, c)

theorem contains_claim (c : Claims) (key other : String) :
    (c.claim key).2.contains other = (other == key || c.contains other) := by
  unfold claim
  split
  · rename_i h
    by_cases ho : other = key
    · subst ho; simp [h]
    · simp [ho]
  · simp only [contains, List.contains_cons]

end Claims

end MetaGraph

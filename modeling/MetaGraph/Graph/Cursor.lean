/-
A cursor hands out the nodes and relations of a model one by one. An element
is checked when it is pulled, not before: a faulty one is consumed by the
pull that reports it, and the pulls after it go on with the next.
-/
import MetaGraph.Graph.Validity

namespace MetaGraph

/-! ## Pulling from a list of elements, with a check on each -/

namespace Pull

variable {α : Type}

/-- The next element as it is, and what is left. -/
def take : List α → Option α × List α
  | [] => (none, [])
  | x :: rest => (some x, rest)

/-- The next element or its fault, and what is left. -/
def next (check : α → Except GraphError Unit) : List α → Except GraphError (Option α) × List α
  | [] => (.ok none, [])
  | x :: rest => ((check x).map fun _ => some x, rest)

/-- All elements that are left, up to the first faulty one. -/
def drain (check : α → Except GraphError Unit) : List α → Except GraphError (List α) × List α
  | [] => (.ok [], [])
  | x :: rest =>
    match check x with
    | .error e => (.error e, rest)
    | .ok () =>
      let (result, left) := drain check rest
      (result.map (x :: ·), left)

end Pull

/-- The nodes and relations still to be handed out. -/
structure Cursor where
  nodes : List Node := []
  relations : List Relation := []
deriving DecidableEq, Repr, Inhabited

namespace Cursor

def takeNode (c : Cursor) : Option Node × Cursor :=
  let (node, nodes) := Pull.take c.nodes
  (node, { c with nodes })

def takeRelation (c : Cursor) : Option Relation × Cursor :=
  let (relation, relations) := Pull.take c.relations
  (relation, { c with relations })

def nextNode (c : Cursor) : Except GraphError (Option Node) × Cursor :=
  let (result, nodes) := Pull.next Node.check c.nodes
  (result, { c with nodes })

def nextRelation (c : Cursor) : Except GraphError (Option Relation) × Cursor :=
  let (result, relations) := Pull.next Relation.check c.relations
  (result, { c with relations })

def drainNodes (c : Cursor) : Except GraphError (List Node) × Cursor :=
  let (result, nodes) := Pull.drain Node.check c.nodes
  (result, { c with nodes })

def drainRelations (c : Cursor) : Except GraphError (List Relation) × Cursor :=
  let (result, relations) := Pull.drain Relation.check c.relations
  (result, { c with relations })

/-- How many nodes and relations are left. -/
def remaining (c : Cursor) : Nat × Nat := (c.nodes.length, c.relations.length)

end Cursor

end MetaGraph

/-
What pulling from a cursor brings. Nodes and relations may be pulled in any
order; each pull brings the next element of its side or that element's fault,
and what was pulled before, even if it was faulty, changes neither what comes
next nor the other side.
-/
import MetaGraph.Graph.Cursor
import MetaGraph.Model.Basic
import MetaGraph.Proofs.Graph.Validity

namespace MetaGraph

/-! ## Labels -/

/-- A word that starts with an upper case character and holds no blank. -/
def IsCapitalized (label : String) : Prop :=
  ∃ c cs, label.toList = c :: cs ∧ Text.isUppercase c = true ∧ ∀ x ∈ c :: cs, Text.isBlank x = false

theorem checkLabel_iff {label : String} : checkLabel label = .ok () ↔ IsCapitalized label := by
  rw [checkLabel_eq_ok_iff, IsCapitalized]
  cases label.toList with
  | nil => simp [isCapitalizedWord]
  | cons c cs =>
    simp only [isCapitalizedWord, Bool.and_eq_true, Bool.not_eq_true', List.any_eq_false]
    constructor
    · rintro ⟨upper, blank⟩
      exact ⟨c, cs, rfl, upper, fun x hx => Bool.eq_false_iff.2 (blank x hx)⟩
    · rintro ⟨_, _, ⟨⟩, upper, blank⟩
      exact ⟨upper, fun x hx => Bool.eq_false_iff.1 (blank x hx)⟩

/-! ## Elements in the order in which they are pulled -/

/-- A node or a relation. -/
inductive Element where
  | node (n : Node)
  | relation (r : Relation)
deriving DecidableEq, Repr

namespace Element

def isNode : Element → Bool
  | node _ => true
  | relation _ => false

def check : Element → Except GraphError Unit
  | node n => n.check
  | relation r => r.check

def Valid (x : Element) : Prop := x.check = .ok ()

end Element

/-- What a model hands out: its nodes, then its relations. -/
def Model.pulled (m : Model) : List Element :=
  m.elements.nodes.map .node ++ m.elements.relations.map .relation

/-! ## Pulls in any order -/

/-- What a pull is for. -/
inductive Side where
  | nodes
  | relations
deriving DecidableEq, Repr

namespace Pull

variable {α : Type} {check : α → Except GraphError Unit}

/-- An element or its fault; nothing at the end. -/
def result (check : α → Except GraphError Unit) : Option α → Except GraphError (Option α)
  | none => .ok none
  | some x => (check x).map fun _ => some x

theorem next_eq (xs : List α) : next check xs = (result check xs.head?, xs.tail) := by
  cases xs <;> rfl

theorem result_of_valid {x? : Option α} (h : ∀ x, x? = some x → check x = .ok ()) :
    result check x? = .ok x? := by
  cases x? with
  | none => rfl
  | some x => rw [result, h x rfl]; rfl

/-- A pull fails exactly at an element that fails its check. -/
theorem result_isOk {x? : Option α} :
    (result check x?).isOk = false ↔ ∃ x, x? = some x ∧ check x ≠ .ok () := by
  cases x? with
  | none => simp [result, Except.isOk, Except.toBool]
  | some x => cases h : check x <;> simp [result, h, Except.map, Except.isOk, Except.toBool]

end Pull

namespace Cursor

/-- What is left after some pulls, whatever they brought. -/
def after (c : Cursor) : List Side → Cursor
  | [] => c
  | .nodes :: rest => c.nextNode.2.after rest
  | .relations :: rest => c.nextRelation.2.after rest

theorem after_eq (c : Cursor) (pulls : List Side) :
    c.after pulls = ⟨c.nodes.drop (pulls.count .nodes), c.relations.drop (pulls.count .relations)⟩ := by
  induction pulls generalizing c with
  | nil => rfl
  | cons side rest ih =>
    cases side <;>
      simp [after, ih, nextNode, nextRelation, Pull.next_eq, ← List.drop_one, Nat.add_comm]

theorem nextNode_after (c : Cursor) (pulls : List Side) :
    (c.after pulls).nextNode.1 = Pull.result Node.check c.nodes[pulls.count .nodes]? := by
  simp [after_eq, nextNode, Pull.next_eq]

theorem nextRelation_after (c : Cursor) (pulls : List Side) :
    (c.after pulls).nextRelation.1 = Pull.result Relation.check c.relations[pulls.count .relations]? := by
  simp [after_eq, nextRelation, Pull.next_eq]

end Cursor

end MetaGraph

/-
What makes a node or a relation fit to be emitted: keys and labels are
given, a label is one word that starts with a capital, a relation's types
are in upper case.
-/
import MetaGraph.Graph.Element
import MetaGraph.Text.Blank
import MetaGraph.Text.Case
import MetaGraph.Text.Quoted

namespace MetaGraph

/-- Why an element cannot be emitted. -/
inductive GraphError where
  | invalidLabel (label : String)
  | invalidRelationType (value : String)
  | missingRequiredField (field : String)
deriving DecidableEq, Repr

def GraphError.message : GraphError → String
  | invalidLabel label =>
    "LABEL should only have upper case character on its first one: " ++ Text.quoted label
  | invalidRelationType value => "TYPE needs to be upper case: " ++ Text.quoted value
  | missingRequiredField field => s!"Required attribute missing: {field}"

/-- Whether the first of `cs` is upper case and none of them is a blank. -/
def isCapitalizedWord : List Char → Bool
  | [] => false
  | c :: cs => Text.isUppercase c && !(c :: cs).any Text.isBlank

/-- A label is a single word that starts with an upper case character. -/
def checkLabel (label : String) : Except GraphError Unit :=
  if isCapitalizedWord label.toList then .ok () else .error (.invalidLabel label)

/-- A relation type is not empty and already in upper case. -/
def checkRelationType (value : String) : Except GraphError Unit :=
  if value = "" ∨ value ≠ Text.upper value then .error (.invalidRelationType value) else .ok ()

/-- A field that must not be empty. -/
def checkGiven (field value : String) : Except GraphError Unit :=
  if value = "" then .error (.missingRequiredField field) else .ok ()

namespace Node

def check (n : Node) : Except GraphError Unit := do
  checkGiven "key" n.key
  checkGiven "label" n.label
  checkLabel n.label

def Valid (n : Node) : Prop := n.check = .ok ()

end Node

namespace Relation

def check (r : Relation) : Except GraphError Unit := do
  checkGiven "start_key" r.startKey
  checkGiven "end_key" r.endKey
  checkLabel r.startLabel
  checkLabel r.endLabel
  checkRelationType r.kind
  checkRelationType r.reverseKind

def Valid (r : Relation) : Prop := r.check = .ok ()

end Relation

theorem checkLabel_eq_ok_iff {label : String} :
    checkLabel label = .ok () ↔ isCapitalizedWord label.toList = true := by
  unfold checkLabel; split <;> simp_all

theorem checkRelationType_eq_ok_iff {value : String} :
    checkRelationType value = .ok () ↔ value ≠ "" ∧ value = Text.upper value := by
  unfold checkRelationType
  split
  · rename_i h
    refine ⟨fun h' => (by cases h'), fun ⟨hne, hup⟩ => ?_⟩
    rcases h with h | h
    · exact absurd h hne
    · exact absurd hup h
  · rename_i h
    exact ⟨fun _ => ⟨fun he => h (.inl he), Decidable.byContradiction fun hu => h (.inr hu)⟩,
      fun _ => rfl⟩

theorem checkGiven_eq_ok_iff {field value : String} :
    checkGiven field value = .ok () ↔ value ≠ "" := by
  unfold checkGiven; split <;> simp_all

end MetaGraph

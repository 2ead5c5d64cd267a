/-
What the checks on nodes and relations tell of their parts.
-/
import MetaGraph.Graph.Validity
import MetaGraph.Proofs.Except

namespace MetaGraph

instance (n : Node) : Decidable n.Valid :=
  match h : n.check with
  | .ok () => isTrue h
  | .error _ => isFalse fun hv => by rw [Node.Valid, h] at hv; cases hv

instance (r : Relation) : Decidable r.Valid :=
  match h : r.check with
  | .ok () => isTrue h
  | .error _ => isFalse fun hv => by rw [Relation.Valid, h] at hv; cases hv

namespace Node

@[simp] theorem withAttribute_key (n : Node) (name : String) (value : Json) :
    (n.withAttribute name value).key = n.key := rfl

@[simp] theorem withAttribute_label (n : Node) (name : String) (value : Json) :
    (n.withAttribute name value).label = n.label := rfl

@[simp] theorem withUnquoted_key (n : Node) (name : String) (value : Json) :
    (n.withUnquoted name value).key = n.key := rfl

@[simp] theorem withUnquoted_label (n : Node) (name : String) (value : Json) :
    (n.withUnquoted name value).label = n.label := rfl

@[simp] theorem withText_key (n : Node) (name value : String) : (n.withText name value).key = n.key := rfl

@[simp] theorem withText_label (n : Node) (name value : String) :
    (n.withText name value).label = n.label := rfl

@[simp] theorem withOptional_key (n : Node) (name : String) (value : Option Json) :
    (n.withOptional name value).key = n.key := by
  cases value <;> rfl

@[simp] theorem withOptional_label (n : Node) (name : String) (value : Option Json) :
    (n.withOptional name value).label = n.label := by
  cases value <;> rfl

end Node

/-- Both ends of a relation, each a label and a key. -/
def Relation.ends (r : Relation) : List (String × String) :=
  [(r.startLabel, r.startKey), (r.endLabel, r.endKey)]

theorem Node.valid_iff {n : Node} : n.Valid ↔ n.key ≠ "" ∧ checkLabel n.label = .ok () := by
  rw [Node.Valid, Node.check, except_seq_ok, except_seq_ok, checkGiven_eq_ok_iff, checkGiven_eq_ok_iff]
  refine and_congr_right fun _ => ⟨And.right, fun h => ⟨?_, h⟩⟩
  intro he
  rw [he] at h
  cases h

theorem Relation.valid_iff {r : Relation} : r.Valid ↔ r.startKey ≠ "" ∧ r.endKey ≠ "" ∧
    checkLabel r.startLabel = .ok () ∧ checkLabel r.endLabel = .ok () ∧
    checkRelationType r.kind = .ok () ∧ checkRelationType r.reverseKind = .ok () := by
  simp only [Relation.Valid, Relation.check, except_seq_ok, checkGiven_eq_ok_iff]

/-- An end of a relation that is handed out is fit to be a node. -/
theorem Relation.Valid.ends {r : Relation} (h : r.Valid) {label key : String}
    (he : (label, key) ∈ r.ends) : key ≠ "" ∧ checkLabel label = .ok () := by
  obtain ⟨hs, hk, hsl, hel, -⟩ := Relation.valid_iff.1 h
  simp only [Relation.ends, List.mem_cons, Prod.mk.injEq, List.not_mem_nil, or_false] at he
  rcases he with ⟨rfl, rfl⟩ | ⟨rfl, rfl⟩
  · exact ⟨hs, hsl⟩
  · exact ⟨hk, hel⟩

/-- A label starts with an upper case character, so it can start the name of a file. -/
theorem head_of_checkLabel {label : String} (h : checkLabel label = .ok ()) :
    ∃ c cs, label.toList = c :: cs ∧ Text.isUppercase c = true := by
  rw [checkLabel_eq_ok_iff] at h
  cases hl : label.toList with
  | nil =>
    rw [hl] at h
    cases h
  | cons c cs =>
    rw [hl, isCapitalizedWord, Bool.and_eq_true] at h
    exact ⟨c, cs, rfl, h.1⟩

end MetaGraph

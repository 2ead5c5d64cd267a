/-
The two formats of bulk-load files, compared. A node has the same label and
key in both, and the columns of its attributes differ only in their names:
Neptune's tell the type of the value, do without the mark of bare values, and
leave out attributes without a value. Both edges of a relation carry all its
attributes, and the relation seen from its other end has the same edges.
-/
import MetaGraph.Bulk.Neo4j
import MetaGraph.Bulk.Neptune
import MetaGraph.Proofs.Text.Cuts
import Mathlib.Data.List.Forall2

namespace MetaGraph

/-! ## One attribute -/

/-- The types of columns that hold values; nothing holds a null. -/
inductive ColumnType : Json → String → Prop
  | bool (b : Bool) : ColumnType (.bool b) "Bool"
  | int (n : Int) : ColumnType (.int n) "Long"
  | float (x : Binary64) : ColumnType (.float x) "Double"
  | text (s : String) : ColumnType (.text s) "String"
  | array (items : List Json) : ColumnType (.array items) "String"
  | object (members : List (String × Json)) : ColumnType (.object members) "String"

/-- A name, and what is left of it without the mark of bare values. -/
inductive Unmarked : String → String → Prop
  | marked (plain : String) : Unmarked (plain ++ unquotedMark) plain
  | bare {name : String} (h : ∀ plain, name ≠ plain ++ unquotedMark) : Unmarked name name

/-- A column that carries an attribute: it has the same cell, under the plain name with the type
of the value. -/
structure Carries (a column : String × Json) : Prop where
  name : ∃ plain type, Unmarked a.1 plain ∧ ColumnType a.2 type ∧ column.1 = plain ++ ":" ++ type
  cell : column.2.cellText = a.2.cellText

/-- The columns carry, in their order, the attributes that have a value. -/
def CarryAll (attributes : List (String × Json)) (columns : Row) : Prop :=
  List.Forall₂ Carries (attributes.filter (·.2 ≠ .null)) columns

/-- Rows of a node for Neo4j and for Neptune that carry the same. -/
def SameNode (n : Node) (neo4j neptune : Row) : Prop :=
  ∃ columns, CarryAll n.attributes columns ∧
    neo4j = [("LABEL", .text n.label), ("KEY", .text n.key)] ++ n.attributes ∧
    neptune = [("~id", .text n.key), ("~label", .text n.label)] ++ columns

/-- The row of an edge with the attribute columns given. -/
def edgeWith (start target kind : String) (columns : Row) : Row :=
  [("~id", .text (start ++ "_" ++ target ++ "_" ++ kind)), ("~from", .text start), ("~to", .text target),
    ("~label", .text kind)] ++ columns

/-- Rows of the two edges of a relation, with the same columns for its attributes. -/
def BothEdges (r : Relation) (rows : List Row) : Prop :=
  ∃ columns, CarryAll r.attributes columns ∧
    rows = [edgeWith r.startKey r.endKey r.kind columns, edgeWith r.endKey r.startKey r.reverseKind columns]

namespace Neptune

theorem columnType_of_valueType? {v : Json} {type : String} (h : valueType? v = some type) :
    ColumnType v type := by
  cases v <;> cases h <;> constructor

theorem valueType?_eq_none_iff {v : Json} : valueType? v = none ↔ v = .null := by
  cases v <;> simp [valueType?]

theorem unmarked_plainName (name : String) : Unmarked name (plainName name) := by
  rw [plainName]
  cases h : Text.dropTail? unquotedMark name with
  | none => exact .bare (Text.dropTail?_eq_none_iff.1 h)
  | some plain =>
    rw [Text.dropTail?_eq_some_iff.1 h]
    exact .marked plain

/-- Lists and objects have the cell of the text that stands for them. -/
theorem cellText_cellValue (v : Json) : (cellValue v).cellText = v.cellText := by
  cases v <;> rfl

theorem attribute?_eq_none_iff {a : String × Json} : attribute? a = none ↔ a.2 = .null := by
  rw [attribute?, Option.map_eq_none_iff, valueType?_eq_none_iff]

theorem carries_of_attribute? {a column : String × Json} (h : attribute? a = some column) :
    Carries a column := by
  obtain ⟨type, ht, rfl⟩ := Option.map_eq_some_iff.1 h
  exact ⟨⟨_, type, unmarked_plainName a.1, columnType_of_valueType? ht, rfl⟩, cellText_cellValue a.2⟩

/-! ## All attributes -/

theorem carryAll_attributeColumns (attributes : List (String × Json)) :
    CarryAll attributes (attributeColumns attributes) := by
  induction attributes with
  | nil => exact .nil
  | cons a attributes ih =>
    rw [CarryAll, attributeColumns]
    cases h : attribute? a with
    | none =>
      rw [List.filterMap_cons_none h, List.filter_cons_of_neg (by simp [attribute?_eq_none_iff.1 h])]
      exact ih
    | some column =>
      have present : a.2 ≠ .null := fun hn => by simp [attribute?_eq_none_iff.2 hn] at h
      rw [List.filterMap_cons_some h, List.filter_cons_of_pos (by simpa using present)]
      exact .cons (carries_of_attribute? h) ih

end Neptune

/-! ## Rows -/

/-- **Both formats carry the same data.** The rows of a node have its key, its label and its
attributes in common, and both edges of a relation carry the attributes of the relation, which
has the same edges, in the other order, when seen from its other end. -/
theorem formats_alike (n : Node) (r : Relation) :
    SameNode n (Neo4j.nodeRow n) (Neptune.nodeRow n) ∧
    BothEdges r (Neptune.relationRows r) ∧
    Neptune.relationRows r.reverse = (Neptune.relationRows r).reverse :=
  ⟨⟨_, Neptune.carryAll_attributeColumns n.attributes, rfl, rfl⟩,
    ⟨_, Neptune.carryAll_attributeColumns r.attributes, rfl⟩, rfl⟩

example :
    let n : Node := ⟨"k", "Stat", [("gone", .null), ("n:UNQUOTED", .int 7), ("tags", .array [.text "x"])]⟩
    Neptune.nodeRow n = [("~id", .text "k"), ("~label", .text "Stat"), ("n:Long", .int 7),
      ("tags:String", .text "[\"x\"]")] := by
  decide +kernel

end MetaGraph

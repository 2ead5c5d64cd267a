/-
Nodes and relations of the metadata graph. A node has a key that is unique
in the whole graph, conventionally shaped like
`source://cluster.schema/name/suffix`; a relation is published in both
directions, each with a type of its own.
-/
import MetaGraph.Json.Basic

namespace MetaGraph

/-- The mark at the end of an attribute's name that asks for a bare value. -/
def unquotedMark : String := ":UNQUOTED"

/-- A node of the metadata graph. -/
structure Node where
  key : String
  label : String
  attributes : KeyMap Json := []
deriving DecidableEq, Repr, Inhabited

/-- A relation between two nodes, with the names of its two directions. -/
structure Relation where
  startLabel : String
  startKey : String
  endLabel : String
  endKey : String
  kind : String
  reverseKind : String
  attributes : KeyMap Json := []
deriving DecidableEq, Repr, Inhabited

namespace Node

/-- The node with one more attribute. -/
def withAttribute (n : Node) (name : String) (value : Json) : Node :=
  { n with attributes := n.attributes.insert name value }

/-- The node with an attribute whose value is written bare. -/
def withUnquoted (n : Node) (name : String) (value : Json) : Node :=
  n.withAttribute (name ++ unquotedMark) value

/-- The node with one more attribute, if there is a value for it. -/
def withOptional (n : Node) (name : String) (value : Option Json) : Node :=
  match value with
  | some v => n.withAttribute name v
  | none => n

/-- The node with one more attribute holding a text. -/
def withText (n : Node) (name value : String) : Node := n.withAttribute name (.text value)

/-- The written form of a node. -/
def toJson (n : Node) : Json :=
  .object [("attributes", .object n.attributes), ("key", .text n.key), ("label", .text n.label)]

end Node

namespace Relation

/-- The relation with one more attribute. -/
def withAttribute (r : Relation) (name : String) (value : Json) : Relation :=
  { r with attributes := r.attributes.insert name value }

/-- The relation seen from its other end. -/
def reverse (r : Relation) : Relation :=
  { r with
    startLabel := r.endLabel, startKey := r.endKey
    endLabel := r.startLabel, endKey := r.startKey
    kind := r.reverseKind, reverseKind := r.kind }

/-- The written form of a relation. -/
def toJson (r : Relation) : Json :=
  .object [("attributes", .object r.attributes), ("end_key", .text r.endKey),
    ("end_label", .text r.endLabel), ("reverse_type", .text r.reverseKind),
    ("start_key", .text r.startKey), ("start_label", .text r.startLabel), ("type", .text r.kind)]

end Relation

end MetaGraph

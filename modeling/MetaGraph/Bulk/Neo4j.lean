/-
Rows for Neo4j: labels, keys and types under their reserved names, then the
attributes under their own names, the mark of bare values included.
-/
import MetaGraph.Bulk.Row
import MetaGraph.Graph.Element

namespace MetaGraph.Neo4j

def labelColumn : String := "LABEL"
def keyColumn : String := "KEY"

/-- The reserved columns of relations: labels, keys and types of both ends. -/
def relationColumns : List String :=
  ["START_LABEL", "END_LABEL", "START_KEY", "END_KEY", "TYPE", "REVERSE_TYPE"]

/-- The reserved values of a relation, in the order of their columns. -/
def relationValues (r : Relation) : List String :=
  [r.startLabel, r.endLabel, r.startKey, r.endKey, r.kind, r.reverseKind]

def nodeRow (n : Node) : Row :=
  [(labelColumn, .text n.label), (keyColumn, .text n.key)] ++ n.attributes

def relationRow (r : Relation) : Row :=
  relationColumns.zip ((relationValues r).map .text) ++ r.attributes

end MetaGraph.Neo4j

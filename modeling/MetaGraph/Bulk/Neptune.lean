/-
Rows for Neptune. Attribute columns carry the type of their value and lose
the mark of bare values; null values have no column. A relation becomes two
edges, one for each direction.
-/
import MetaGraph.Bulk.Row
import MetaGraph.Graph.Element
import MetaGraph.Json.Printer
import MetaGraph.Text.Pieces

namespace MetaGraph.Neptune

/-- The column type of a value. -/
def valueType? : Json → Option String
  | .null => none
  | .bool _ => some "Bool"
  | .int _ => some "Long"
  | .float _ => some "Double"
  | .text _ | .array _ | .object _ => some "String"

/-- The value as a cell holds it: lists and objects as their JSON text. -/
def cellValue : Json → Json
  | .array items => .text (Json.array items).compact
  | .object members => .text (Json.object members).compact
  | v => v

/-- The name of an attribute without the mark of a bare value. -/
def plainName (name : String) : String := (Text.dropTail? unquotedMark name).getD name

/-- The column of one attribute. -/
def attribute? (entry : String × Json) : Option (String × Json) :=
  (valueType? entry.2).map fun type => (plainName entry.1 ++ ":" ++ type, cellValue entry.2)

def attributeColumns (attributes : KeyMap Json) : Row := attributes.filterMap attribute?

def nodeRow (n : Node) : Row :=
  [("~id", .text n.key), ("~label", .text n.label)] ++ attributeColumns n.attributes

/-- The edge from the start of a relation to its end. -/
def edgeRow (r : Relation) : Row :=
  [("~id", .text (r.startKey ++ "_" ++ r.endKey ++ "_" ++ r.kind)), ("~from", .text r.startKey),
    ("~to", .text r.endKey), ("~label", .text r.kind)] ++ attributeColumns r.attributes

/-- The edges of a relation: forward, then backward. -/
def relationRows (r : Relation) : List Row := [edgeRow r, edgeRow r.reverse]

end MetaGraph.Neptune

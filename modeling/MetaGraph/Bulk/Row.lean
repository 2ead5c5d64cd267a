/-
Rows of bulk-load files: named values in the order of the columns, the
reserved columns first and the attributes after them in the order of their
names.
-/
import MetaGraph.Decode.Decoder
import MetaGraph.Json.Printer

namespace MetaGraph

/-- The file formats a graph can be written in. -/
inductive BulkFormat where
  | neo4j
  | neptune
deriving DecidableEq, Repr, Inhabited

namespace BulkFormat

def name : BulkFormat → String
  | neo4j => "neo4j"
  | neptune => "neptune"

def choices : List (String × BulkFormat) := [("neo4j", neo4j), ("neptune", neptune)]

def decoder : Decoder BulkFormat := Decoder.choice "GraphFormat" choices

end BulkFormat

/-- A row, as its columns with their values. -/
abbrev Row := List (String × Json)

/-- The names of a row's columns. -/
def Row.columns (r : Row) : List String := r.map Prod.fst

/-- The cells of a row. -/
def Row.cells (r : Row) : List String := r.map fun c => c.2.cellText

end MetaGraph

/-
The high or low watermark of a partitioned table: the partition it stands
for and the time it was made.
-/
import MetaGraph.Graph.Cursor
import MetaGraph.Model.Field
import MetaGraph.Model.Key

namespace MetaGraph

/-- The fields of a watermark's record. -/
structure WatermarkFields where
  createTime : String
  database : String
  schema : String
  tableName : String
  partName : String
  partType : String
  cluster : String
deriving DecidableEq, Repr

def WatermarkFields.shape : Shape WatermarkFields :=
  Shape.done mk
    |>.required "create_time" Field.string
    |>.required "database" Field.string
    |>.required "schema" Field.string
    |>.required "table_name" Field.string
    |>.required "part_name" Field.string
    |>.optional "part_type" Field.string "high_watermark"
    |>.optional "cluster" Field.string defaultCluster

/-- A watermark, its names in lower case. -/
structure Watermark where
  createTime : String
  database : String
  schema : String
  table : String
  partitionKey : String
  partitionValue : String
  partType : String
  cluster : String
deriving DecidableEq, Repr

namespace Watermark

/-- Only a partition named `key=value` has a watermark. -/
def ofFields (f : WatermarkFields) : Except ModelError Watermark :=
  let partName := Text.lower f.partName
  match Text.cutAt? '=' partName with
  | none =>
    .error (.invalidValue "watermark" "part_name"
      ("only partitioned tables have watermarks, got " ++ Text.quoted partName))
  | some (key, value) =>
    .ok {
      createTime := f.createTime
      database := Text.lower f.database
      schema := Text.lower f.schema
      table := Text.lower f.tableName
      partitionKey := key
      partitionValue := value
      partType := Text.lower f.partType
      cluster := Text.lower f.cluster }

def tableKey (w : Watermark) : String := MetaGraph.tableKey w.database w.cluster w.schema w.table

def key (w : Watermark) : String := w.tableKey ++ "/" ++ w.partType ++ "/"

def node (w : Watermark) : Node :=
  ({ key := w.key, label := "Watermark" } : Node)
    |>.withText "partition_key" w.partitionKey
    |>.withText "partition_value" w.partitionValue
    |>.withText "create_time" w.createTime

def relation (w : Watermark) : Relation where
  startLabel := "Watermark"
  startKey := w.key
  endLabel := "Table"
  endKey := w.tableKey
  kind := "BELONG_TO_TABLE"
  reverseKind := "WATERMARK"

def elements (w : Watermark) : Cursor := ⟨[w.node], [w.relation]⟩

end Watermark

end MetaGraph

/-
One computed statistic of a table's column.
-/
import MetaGraph.Graph.Cursor
import MetaGraph.Model.Field
import MetaGraph.Model.Key

namespace MetaGraph

/-- The fields of a statistic's record. The table is named `schema.table` when
there is no schema of its own. -/
structure ColumnStatFields where
  tableName : String
  colName : String
  statName : String
  statVal : String
  startEpoch : String
  endEpoch : String
  db : String
  cluster : String
  schema : Option String
deriving DecidableEq, Repr

def ColumnStatFields.shape : Shape ColumnStatFields :=
  Shape.done mk
    |>.required "table_name" Field.string
    |>.required "col_name" Field.string
    |>.required "stat_name" Field.string
    |>.required "stat_val" Field.string
    |>.required "start_epoch" Field.string
    |>.required "end_epoch" Field.string
    |>.optional "db" Field.string "hive"
    |>.optional "cluster" Field.string defaultCluster
    |>.optional "schema" Field.optString none

/-- A statistic of a column; schema, table and column are in lower case. -/
structure ColumnStat where
  db : String
  cluster : String
  schema : String
  table : String
  colName : String
  statName : String
  statVal : String
  startEpoch : String
  endEpoch : String
deriving DecidableEq, Repr

namespace ColumnStat

/-- The schema and table a record names. -/
def place (f : ColumnStatFields) : Except ModelError (String × String) :=
  let undotted := ModelError.invalidValue "table_column_stats" "table_name"
    ("expected 'schema.table' when no schema is given, got " ++ Text.quoted f.tableName)
  match f.schema with
  | some schema => .ok (schema, f.tableName)
  | none =>
    match Text.cutAt? '.' f.tableName with
    | some (schema, table) =>
      if table.toList.contains '.' then .error undotted else .ok (schema, table)
    | none => .error undotted

def ofFields (f : ColumnStatFields) : Except ModelError ColumnStat := do
  let (schema, table) ← place f
  pure {
    db := f.db
    cluster := f.cluster
    schema := Text.lower schema
    table := Text.lower table
    colName := Text.lower f.colName
    statName := f.statName
    statVal := f.statVal
    startEpoch := f.startEpoch
    endEpoch := f.endEpoch }

def tableKey (s : ColumnStat) : String := MetaGraph.tableKey s.db s.cluster s.schema s.table

def columnKey (s : ColumnStat) : String := s.tableKey ++ "/" ++ s.colName

def key (s : ColumnStat) : String := s.tableKey ++ "/" ++ s.colName ++ "/" ++ s.statName ++ "/"

def node (s : ColumnStat) : Node :=
  ({ key := s.key, label := "Stat" } : Node)
    |>.withUnquoted "stat_val" (.text s.statVal)
    |>.withText "stat_name" s.statName
    |>.withText "start_epoch" s.startEpoch
    |>.withText "end_epoch" s.endEpoch

def relation (s : ColumnStat) : Relation where
  startLabel := "Stat"
  startKey := s.key
  endLabel := "Column"
  endKey := s.columnKey
  kind := "STAT_OF"
  reverseKind := "STAT"

def elements (s : ColumnStat) : Cursor := ⟨[s.node], [s.relation]⟩

end ColumnStat

end MetaGraph

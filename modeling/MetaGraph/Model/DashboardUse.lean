/-
What a dashboard is made from: the queries behind its charts, and the tables
those charts read.
-/
import MetaGraph.Graph.Cursor
import MetaGraph.Model.Field
import MetaGraph.Model.Key
import MetaGraph.Text.Word

namespace MetaGraph

/-- A query behind one of a dashboard's charts. -/
structure DashboardQuery where
  groupId : String
  dashboardId : String
  queryName : String
  queryId? : Option String
  url : Option String
  queryText : Option String
  product : String
  cluster : String
deriving DecidableEq, Repr

namespace DashboardQuery

def shape : Shape DashboardQuery :=
  Shape.done mk
    |>.required "dashboard_group_id" Field.string
    |>.required "dashboard_id" Field.string
    |>.required "query_name" Field.string
    |>.optional "query_id" Field.optString none
    |>.optional "url" Field.optString none
    |>.optional "query_text" Field.optString none
    |>.optional "product" Field.string ""
    |>.optional "cluster" Field.string defaultCluster

/-- The identifier of the query, or its name. -/
def queryId (q : DashboardQuery) : String := q.queryId?.getD q.queryName

def dashboardKey (q : DashboardQuery) : String :=
  MetaGraph.dashboardKey q.product q.cluster q.groupId q.dashboardId

def key (q : DashboardQuery) : String := q.dashboardKey ++ "/query/" ++ q.queryId

def node (q : DashboardQuery) : Node :=
  ({ key := q.key, label := "Query" } : Node)
    |>.withText "id" q.queryId
    |>.withText "name" q.queryName
    |>.withOptional "url" (q.url.map .text)
    |>.withOptional "query_text" (q.queryText.map .text)

def relation (q : DashboardQuery) : Relation where
  startLabel := "Dashboard"
  startKey := q.dashboardKey
  endLabel := "Query"
  endKey := q.key
  kind := "HAS_QUERY"
  reverseKind := "QUERY_OF"

def elements (q : DashboardQuery) : Cursor := ⟨[q.node], [q.relation]⟩

end DashboardQuery

/-- The four parts of a table's address. -/
structure TableAddress where
  db : String
  cluster : String
  schema : String
  table : String
deriving DecidableEq, Repr

namespace TableAddress

/-- A word in front of `cs`, and what follows it. -/
def word? (cs : List Char) : Option (String × List Char) :=
  match cs.takeWhile Text.isWord with
  | [] => none
  | w => some (String.ofList w, cs.dropWhile Text.isWord)

/-- What follows the given characters, if `cs` starts with them. -/
def after? (mark : List Char) (cs : List Char) : Option (List Char) :=
  if cs.take mark.length = mark then some (cs.drop mark.length) else none

/-- The address that `uri` starts with: words in the shape
`db://cluster.schema/table`. What follows the last word is not looked at. -/
def ofUri? (uri : String) : Option TableAddress := do
  let (db, rest) ← word? uri.toList
  let rest ← after? [':', '/', '/'] rest
  let (cluster, rest) ← word? rest
  let rest ← after? ['.'] rest
  let (schema, rest) ← word? rest
  let rest ← after? ['/'] rest
  let (table, _) ← word? rest
  some { db, cluster, schema, table }

def key (a : TableAddress) : String := tableKey a.db a.cluster a.schema a.table

end TableAddress

/-- The tables a dashboard's charts read. -/
structure DashboardTable where
  groupId : String
  dashboardId : String
  tableIds : List String
  product : String
  cluster : String
deriving DecidableEq, Repr

namespace DashboardTable

def shape : Shape DashboardTable :=
  Shape.done mk
    |>.required "dashboard_group_id" Field.string
    |>.required "dashboard_id" Field.string
    |>.optional "table_ids" Field.stringList []
    |>.optional "product" Field.string ""
    |>.optional "cluster" Field.string defaultCluster

def dashboardKey (t : DashboardTable) : String :=
  MetaGraph.dashboardKey t.product t.cluster t.groupId t.dashboardId

def relation (t : DashboardTable) (address : TableAddress) : Relation where
  startLabel := "Dashboard"
  startKey := t.dashboardKey
  endLabel := "Table"
  endKey := address.key
  kind := "DASHBOARD_WITH_TABLE"
  reverseKind := "TABLE_OF_DASHBOARD"

/-- A relation for every identifier that starts with a table's address; no nodes. -/
def elements (t : DashboardTable) : Cursor :=
  ⟨[], (t.tableIds.filterMap TableAddress.ofUri?).map t.relation⟩

end DashboardTable

end MetaGraph

/-
What happens to a dashboard over time: each execution, the last execution
and the last modification. Each gives one node and the relation from the
dashboard to it.
-/
import MetaGraph.Graph.Cursor
import MetaGraph.Model.Field
import MetaGraph.Model.Key

namespace MetaGraph

/-- One identified execution of a dashboard; every execution has its own node. -/
structure Execution where
  groupId : String
  dashboardId : String
  executionId : String
  timestamp : Int
  state : String
  product : String
  cluster : String
deriving DecidableEq, Repr

/-- The latest execution of a dashboard. -/
structure LastExecution where
  groupId : String
  dashboardId : String
  timestamp : Int
  state : String
  product : String
  cluster : String
deriving DecidableEq, Repr

/-- The time a dashboard was last modified. -/
structure LastModified where
  groupId : String
  dashboardId : String
  timestamp : Int
  product : String
  cluster : String
deriving DecidableEq, Repr

namespace Execution

def shape : Shape Execution :=
  Shape.done mk
    |>.required "dashboard_group_id" Field.string
    |>.required "dashboard_id" Field.string
    |>.required "execution_id" Field.string
    |>.required "execution_timestamp" Field.int
    |>.required "execution_state" Field.string
    |>.optional "product" Field.string ""
    |>.optional "cluster" Field.string defaultCluster

def dashboardKey (e : Execution) : String :=
  MetaGraph.dashboardKey e.product e.cluster e.groupId e.dashboardId

def key (e : Execution) : String := e.dashboardKey ++ "/execution/" ++ e.executionId

def node (e : Execution) : Node :=
  ({ key := e.key, label := "Execution" } : Node)
    |>.withAttribute "timestamp" (.int e.timestamp)
    |>.withText "state" e.state

def relation (e : Execution) : Relation where
  startLabel := "Dashboard"
  startKey := e.dashboardKey
  endLabel := "Execution"
  endKey := e.key
  kind := "EXECUTED"
  reverseKind := "EXECUTION_OF"

def elements (e : Execution) : Cursor := ⟨[e.node], [e.relation]⟩

end Execution

namespace LastExecution

def shape : Shape LastExecution :=
  Shape.done mk
    |>.required "dashboard_group_id" Field.string
    |>.required "dashboard_id" Field.string
    |>.required "execution_timestamp" Field.int
    |>.required "execution_state" Field.string
    |>.optional "product" Field.string ""
    |>.optional "cluster" Field.string defaultCluster

def dashboardKey (e : LastExecution) : String :=
  MetaGraph.dashboardKey e.product e.cluster e.groupId e.dashboardId

def key (e : LastExecution) : String := e.dashboardKey ++ "/_last_execution"

def node (e : LastExecution) : Node :=
  ({ key := e.key, label := "Execution" } : Node)
    |>.withAttribute "time_stamp" (.int e.timestamp)
    |>.withText "state" e.state

def relation (e : LastExecution) : Relation where
  startLabel := "Dashboard"
  startKey := e.dashboardKey
  endLabel := "Execution"
  endKey := e.key
  kind := "LAST_EXECUTED"
  reverseKind := "LAST_EXECUTION_OF"

def elements (e : LastExecution) : Cursor := ⟨[e.node], [e.relation]⟩

end LastExecution

namespace LastModified

def shape : Shape LastModified :=
  Shape.done mk
    |>.required "dashboard_group_id" Field.string
    |>.required "dashboard_id" Field.string
    |>.required "last_modified_timestamp" Field.int
    |>.optional "product" Field.string ""
    |>.optional "cluster" Field.string defaultCluster

def dashboardKey (m : LastModified) : String :=
  MetaGraph.dashboardKey m.product m.cluster m.groupId m.dashboardId

def key (m : LastModified) : String := m.dashboardKey ++ "/_last_modified_timestamp"

def node (m : LastModified) : Node :=
  ({ key := m.key, label := "Timestamp" } : Node)
    |>.withAttribute "timestamp" (.int m.timestamp)
    |>.withText "name" "last_updated_timestamp"

def relation (m : LastModified) : Relation where
  startLabel := "Dashboard"
  startKey := m.dashboardKey
  endLabel := "Timestamp"
  endKey := m.key
  kind := "LAST_UPDATED_AT"
  reverseKind := "LAST_UPDATED_TIME_OF"

def elements (m : LastModified) : Cursor := ⟨[m.node], [m.relation]⟩

end LastModified

end MetaGraph

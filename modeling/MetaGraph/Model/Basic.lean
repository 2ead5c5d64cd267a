/-
The models that can be published: what a model is about, and the nodes and
relations it still has to hand out. A model is built from a record within a
run, whose claims may grow by it; a record that cannot be bound claims
nothing.
-/
import MetaGraph.Model.Badge
import MetaGraph.Model.ColumnStat
import MetaGraph.Model.Dashboard
import MetaGraph.Model.DashboardActivity
import MetaGraph.Model.DashboardUse
import MetaGraph.Model.Metric
import MetaGraph.Model.Watermark

namespace MetaGraph

/-- What a model is about. -/
inductive Subject where
  | badge (s : BadgeSet)
  | watermark (w : Watermark)
  | columnStat (s : ColumnStat)
  | dashboard (d : Dashboard)
  | lastExecution (e : LastExecution)
  | lastModified (m : LastModified)
  | dashboardQuery (q : DashboardQuery)
  | dashboardTable (t : DashboardTable)
  | execution (e : Execution)
  | metric (m : Metric)
deriving DecidableEq, Repr

/-- A model with the elements it has not handed out yet. -/
structure Model where
  subject : Subject
  elements : Cursor
deriving DecidableEq, Repr

/-- The kinds of models that records can be bound to. -/
inductive ModelKind where
  | badge
  | watermark
  | columnStat
  | dashboard
  | lastExecution
  | lastModified
  | dashboardQuery
  | dashboardTable
  | execution
  | metric
deriving DecidableEq, Repr

namespace ModelKind

/-- All kinds there are. -/
def all : List ModelKind :=
  [badge, watermark, columnStat, dashboard, lastExecution, lastModified, dashboardQuery,
    dashboardTable, execution, metric]

/-- The name a kind is registered by. -/
def name : ModelKind → String
  | badge => "badge"
  | watermark => "watermark"
  | columnStat => "table_column_stats"
  | dashboard => "dashboard_metadata"
  | lastExecution => "dashboard_last_execution"
  | lastModified => "dashboard_last_modified_timestamp"
  | dashboardQuery => "dashboard_query"
  | dashboardTable => "dashboard_table"
  | execution => "dashboard_execution"
  | metric => "metric_metadata"

/-- Builds a model of this kind from a record, given the claims of the run. -/
def build (kind : ModelKind) (record : Record) (claims : Claims) :
    Except ModelError (Model × Claims) := do
  match kind with
  | badge =>
    let s ← Field.ofRecord kind.name BadgeSet.shape record
    pure (⟨.badge s, s.elements⟩, claims)
  | watermark =>
    let w ← Watermark.ofFields (← Field.ofRecord kind.name WatermarkFields.shape record)
    pure (⟨.watermark w, w.elements⟩, claims)
  | columnStat =>
    let s ← ColumnStat.ofFields (← Field.ofRecord kind.name ColumnStatFields.shape record)
    pure (⟨.columnStat s, s.elements⟩, claims)
  | dashboard =>
    let d ← Field.ofRecord kind.name Dashboard.shape record
    let (elements, claims) := d.elements claims
    pure (⟨.dashboard d, elements⟩, claims)
  | lastExecution =>
    let e ← Field.ofRecord kind.name LastExecution.shape record
    pure (⟨.lastExecution e, e.elements⟩, claims)
  | lastModified =>
    let m ← Field.ofRecord kind.name LastModified.shape record
    pure (⟨.lastModified m, m.elements⟩, claims)
  | dashboardQuery =>
    let q ← Field.ofRecord kind.name DashboardQuery.shape record
    pure (⟨.dashboardQuery q, q.elements⟩, claims)
  | dashboardTable =>
    let t ← Field.ofRecord kind.name DashboardTable.shape record
    pure (⟨.dashboardTable t, t.elements⟩, claims)
  | execution =>
    let e ← Field.ofRecord kind.name Execution.shape record
    pure (⟨.execution e, e.elements⟩, claims)
  | metric =>
    let m ← Field.ofRecord kind.name Metric.shape record
    let (elements, claims) := m.elements claims
    pure (⟨.metric m, elements⟩, claims)

end ModelKind

namespace Subject

def kind : Subject → ModelKind
  | badge _ => .badge
  | watermark _ => .watermark
  | columnStat _ => .columnStat
  | dashboard _ => .dashboard
  | lastExecution _ => .lastExecution
  | lastModified _ => .lastModified
  | dashboardQuery _ => .dashboardQuery
  | dashboardTable _ => .dashboardTable
  | execution _ => .execution
  | metric _ => .metric

/-- The keys a subject answers for, besides those of its elements. -/
def keys : Subject → List String
  | watermark w => [w.key, w.tableKey, w.partitionKey, w.partitionValue]
  | columnStat s => [s.key, s.columnKey, s.schema, s.table]
  | dashboard d => [d.groupId, d.dashboardId, d.clusterKey, d.groupKey, d.key]
  | metric m => [m.key, m.dashboardKey]
  | _ => []

end Subject

namespace Model

def kind (m : Model) : ModelKind := m.subject.kind

/-- The name the model's kind is registered by. -/
def name (m : Model) : String := m.kind.name

end Model

end MetaGraph

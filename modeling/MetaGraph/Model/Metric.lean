/-
A metric shown on a dashboard, with its type, description and tags. Types
and tags are shared by many metrics and their nodes claimed; the same metric
is often met once for every query that uses it, so each of its relations is
claimed too.
-/
import MetaGraph.Graph.Claims
import MetaGraph.Model.Dashboard

namespace MetaGraph

/-- A metric as its record describes it. -/
structure Metric where
  dashboardGroup : String
  dashboardName : String
  name : String
  expression : String
  description : Option String
  type? : Option String
  tags : List String
deriving DecidableEq, Repr

namespace Metric

def shape : Shape Metric :=
  Shape.done mk
    |>.required "dashboard_group" Field.string
    |>.required "dashboard_name" Field.string
    |>.required "name" Field.string
    |>.required "expression" Field.string
    |>.optional "description" Field.optString none
    |>.optional "type" Field.optString none
    |>.optional "tags" Field.stringList []

def key (m : Metric) : String := metricKey m.name

def dashboardKey (m : Metric) : String := m.dashboardGroup ++ "://" ++ m.dashboardName

def node (m : Metric) : Node :=
  ({ key := m.key, label := "Metric" } : Node)
    |>.withText "name" m.name
    |>.withText "expression" m.expression

def typeNode (type : String) : Node :=
  ({ key := metricTypeKey type, label := "Metrictype" } : Node).withText "name" type

/-- The nodes of a metric, and the claims after it: the metric itself, its
description, and those of its tags and type that are claimed first. -/
def nodes (m : Metric) (claims : Claims) : List Node × Claims :=
  let (tags, claims) := claims.claimNodes (m.tags.map (Dashboard.tagNode "metric"))
  let (type, claims) := claims.claimNodes (m.type?.map typeNode).toList
  ([m.node] ++ (m.description.map (Dashboard.descriptionNode (descriptionKey m.key))).toList
    ++ tags ++ type, claims)

def dashboardRelation (m : Metric) : Relation where
  startLabel := "Metric"
  startKey := m.key
  endLabel := "Dashboard"
  endKey := m.dashboardKey
  kind := "METRIC_OF"
  reverseKind := "METRIC"

def typeRelation (m : Metric) (type : String) : Relation where
  startLabel := "Metric"
  startKey := m.key
  endLabel := "Metrictype"
  endKey := metricTypeKey type
  kind := "METRIC_TYPE"
  reverseKind := "METRIC_TYPE_OF"

/-- All relations of a metric, claimed or not. -/
def relations (m : Metric) : List Relation :=
  [m.dashboardRelation]
    ++ (m.description.map fun _ => Dashboard.descriptionRelation "Metric" m.key).toList
    ++ m.tags.map (Dashboard.tagRelation "Metric" m.key)
    ++ (m.type?.map m.typeRelation).toList

def elements (m : Metric) (claims : Claims) : Cursor × Claims :=
  let (relations, claims) := claims.claimRelations m.relations
  let (nodes, claims) := m.nodes claims
  (⟨nodes, relations⟩, claims)

end Metric

end MetaGraph

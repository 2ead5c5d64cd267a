/-
A dashboard with its cluster, its group, their descriptions and its tags.
The nodes of the cluster and the group are shared by all dashboards of a
run: the first one that claims their key emits them. Relations are always
emitted.
-/
import MetaGraph.Graph.Claims
import MetaGraph.Graph.Cursor
import MetaGraph.Model.Field
import MetaGraph.Model.Key

namespace MetaGraph

/-- A dashboard as its record describes it. -/
structure Dashboard where
  group : String
  name : String
  description : Option String
  tags : List String
  cluster : String
  product : String
  groupId? : Option String
  dashboardId? : Option String
  groupDescription : Option String
  createdTimestamp : Option Int
  groupUrl : Option String
  dashboardUrl : Option String
deriving DecidableEq, Repr

namespace Dashboard

def shape : Shape Dashboard :=
  Shape.done mk
    |>.required "dashboard_group" Field.string
    |>.required "dashboard_name" Field.string
    |>.optional "description" Field.optString none
    |>.optional "tags" Field.stringList []
    |>.optional "cluster" Field.string defaultCluster
    |>.optional "product" Field.string ""
    |>.optional "dashboard_group_id" Field.optString none
    |>.optional "dashboard_id" Field.optString none
    |>.optional "dashboard_group_description" Field.optString none
    |>.optional "created_timestamp" Field.optInt none
    |>.optional "dashboard_group_url" Field.optString none
    |>.optional "dashboard_url" Field.optString none

/-- The identifier of the group, or its name. -/
def groupId (d : Dashboard) : String := d.groupId?.getD d.group

/-- The identifier of the dashboard, or its name. -/
def dashboardId (d : Dashboard) : String := d.dashboardId?.getD d.name

def clusterKey (d : Dashboard) : String := MetaGraph.clusterKey d.product d.cluster

def groupKey (d : Dashboard) : String := dashboardGroupKey d.product d.cluster d.groupId

def key (d : Dashboard) : String := dashboardKey d.product d.cluster d.groupId d.dashboardId

def descriptionNode (key text : String) : Node :=
  ({ key, label := "Description" } : Node).withText "description" text

def clusterNode (d : Dashboard) : Node :=
  ({ key := d.clusterKey, label := "Cluster" } : Node).withText "name" d.cluster

def node (d : Dashboard) : Node :=
  ({ key := d.key, label := "Dashboard" } : Node)
    |>.withText "name" d.name
    |>.withOptional "created_timestamp" (d.createdTimestamp.map .int)
    |>.withOptional "dashboard_url" (d.dashboardUrl.map .text)

def groupNode (d : Dashboard) : Node :=
  ({ key := d.groupKey, label := "Dashboardgroup" } : Node)
    |>.withText "name" d.group
    |>.withOptional "dashboard_group_url" (d.groupUrl.map .text)

def tagNode (use tag : String) : Node :=
  ({ key := tag, label := "Tag" } : Node).withText "tag_type" use

/-- The nodes of a dashboard, and the claims after it: the cluster, the
dashboard, the group unless it has no name, the descriptions and the tags. -/
def nodes (d : Dashboard) (claims : Claims) : List Node × Claims :=
  let (cluster, claims) := claims.claimNodes [d.clusterNode]
  let (group, claims) := claims.claimNodes (if d.group = "" then [] else [d.groupNode])
  (cluster ++ [d.node] ++ group
    ++ (d.groupDescription.map (descriptionNode (descriptionKey d.groupKey))).toList
    ++ (d.description.map (descriptionNode (descriptionKey d.key))).toList
    ++ d.tags.map (tagNode "dashboard"), claims)

def clusterRelation (d : Dashboard) : Relation where
  startLabel := "Cluster"
  startKey := d.clusterKey
  endLabel := "Dashboardgroup"
  endKey := d.groupKey
  kind := "DASHBOARD_GROUP"
  reverseKind := "DASHBOARD_GROUP_OF"

def groupRelation (d : Dashboard) : Relation where
  startLabel := "Dashboard"
  startKey := d.key
  endLabel := "Dashboardgroup"
  endKey := d.groupKey
  kind := "DASHBOARD_OF"
  reverseKind := "DASHBOARD"

/-- The relation from an element to its description. -/
def descriptionRelation (label key : String) : Relation where
  startLabel := label
  startKey := key
  endLabel := "Description"
  endKey := descriptionKey key
  kind := "DESCRIPTION"
  reverseKind := "DESCRIPTION_OF"

/-- The relation from an element to one of its tags. -/
def tagRelation (label key tag : String) : Relation where
  startLabel := label
  startKey := key
  endLabel := "Tag"
  endKey := tag
  kind := "TAG"
  reverseKind := "TAG_OF"

def relations (d : Dashboard) : List Relation :=
  [d.clusterRelation]
    ++ (d.groupDescription.map fun _ => descriptionRelation "Dashboardgroup" d.groupKey).toList
    ++ [d.groupRelation]
    ++ (d.description.map fun _ => descriptionRelation "Dashboard" d.key).toList
    ++ d.tags.map (tagRelation "Dashboard" d.key)

def elements (d : Dashboard) (claims : Claims) : Cursor × Claims :=
  let (nodes, claims) := d.nodes claims
  (⟨nodes, d.relations⟩, claims)

end Dashboard

end MetaGraph

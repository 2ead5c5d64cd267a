/-
The keys that models share: of tables, and of the clusters, groups and
dashboards of a product.
-/

namespace MetaGraph

/-- The key of a table: `db://cluster.schema/table`. -/
def tableKey (db cluster schema table : String) : String :=
  db ++ "://" ++ cluster ++ "." ++ schema ++ "/" ++ table

/-- The key of a cluster of dashboards. -/
def clusterKey (product cluster : String) : String := product ++ "_dashboard://" ++ cluster

/-- The key of a group of dashboards. -/
def dashboardGroupKey (product cluster group : String) : String :=
  clusterKey product cluster ++ "." ++ group

/-- The key of a dashboard. -/
def dashboardKey (product cluster group dashboard : String) : String :=
  dashboardGroupKey product cluster group ++ "/" ++ dashboard

/-- The key of a metric. -/
def metricKey (name : String) : String := "metric://" ++ name

/-- The key of a metric's type. -/
def metricTypeKey (name : String) : String := "type://" ++ name

/-- The key of the description of what stands under `key`. -/
def descriptionKey (key : String) : String := key ++ "/_description"

/-- The cluster of a record that names none. -/
def defaultCluster : String := "gold"

end MetaGraph

/-
When two dashboards share a key. A key joins the product, the cluster, the
group and the dashboard with three marks, and nothing keeps the marks out of
the parts. So different dashboards share a key exactly where a part of one
runs on over a mark into what follows it in the other, and a graph that
merges nodes by their keys then holds one node for both.
-/
import MetaGraph.Proofs.Cypher.Replay
import MetaGraph.Proofs.Text.Cuts

namespace MetaGraph

/-- What a dashboard is told apart by. -/
structure DashboardId where
  product : String
  cluster : String
  group : String
  dashboard : String
deriving DecidableEq, Repr

namespace DashboardId

def key (i : DashboardId) : String := dashboardKey i.product i.cluster i.group i.dashboard

/-- What follows the cluster in a key. -/
def inCluster (i : DashboardId) : String := i.group ++ "/" ++ i.dashboard

/-- What follows the product in a key. -/
def inProduct (i : DashboardId) : String := i.cluster ++ "." ++ i.inCluster

/-- The product of the second dashboard goes on where that of the first ends, or it is the same and
the cluster does, or both are the same and the group does. -/
def RunsInto (i j : DashboardId) : Prop :=
  Text.RunsPast "_dashboard://" i.product i.inProduct j.product j.inProduct ∨
    i.product = j.product ∧ (Text.RunsPast "." i.cluster i.inCluster j.cluster j.inCluster ∨
      i.cluster = j.cluster ∧ Text.RunsPast "/" i.group i.dashboard j.group j.dashboard)

/-- No part but the last holds the mark that ends it. -/
structure Plain (i : DashboardId) : Prop where
  product : ¬ "_dashboard://".toList <:+: i.product.toList
  cluster : '.' ∉ i.cluster.toList
  group : '/' ∉ i.group.toList

instance (i : DashboardId) : Decidable i.Plain :=
  decidable_of_iff
    (¬ "_dashboard://".toList <:+: i.product.toList ∧ '.' ∉ i.cluster.toList ∧ '/' ∉ i.group.toList)
    ⟨fun ⟨product, cluster, group⟩ => ⟨product, cluster, group⟩, fun h => ⟨h.product, h.cluster, h.group⟩⟩

variable {i j : DashboardId}

theorem key_eq (i : DashboardId) : i.key = i.product ++ "_dashboard://" ++ i.inProduct := by
  simp only [key, dashboardKey, dashboardGroupKey, clusterKey, inProduct, inCluster, String.append_assoc]

theorem eq_iff : i = j ↔
    i.product = j.product ∧ i.cluster = j.cluster ∧ i.group = j.group ∧ i.dashboard = j.dashboard := by
  cases i
  cases j
  exact DashboardId.mk.injEq .. ▸ Iff.rfl

/-- Two dashboards have one key exactly if they are the same or one runs into the other. -/
theorem key_eq_key_iff : i.key = j.key ↔ i = j ∨ i.RunsInto j ∨ j.RunsInto i := by
  have dashboard : Text.BeginsOnce "_dashboard://" := ⟨'_', _, rfl, by decide⟩
  have dot : Text.BeginsOnce "." := ⟨'.', [], rfl, List.not_mem_nil⟩
  have slash : Text.BeginsOnce "/" := ⟨'/', [], rfl, List.not_mem_nil⟩
  rw [key_eq, key_eq, Text.joined_eq_iff dashboard, inProduct, inProduct, Text.joined_eq_iff dot,
    inCluster, inCluster, Text.joined_eq_iff slash, eq_iff, RunsInto, RunsInto, eq_comm (a := j.product),
    eq_comm (a := j.cluster)]
  simp only [inProduct, inCluster]
  tauto

theorem Plain.not_runsInto (h : j.Plain) : ¬ i.RunsInto j := by
  rintro (⟨between, product, -⟩ | ⟨-, ⟨between, cluster, -⟩ | ⟨-, between, group, -⟩⟩)
  · exact h.product ⟨i.product.toList, between.toList, by simp [product]⟩
  · exact h.cluster (by simp [cluster])
  · exact h.group (by simp [group])

theorem Plain.key_eq_key_iff (hi : i.Plain) (hj : j.Plain) : i.key = j.key ↔ i = j := by
  rw [DashboardId.key_eq_key_iff]
  exact ⟨fun h => h.resolve_right fun h => h.elim hj.not_runsInto hi.not_runsInto, .inl⟩

end DashboardId

namespace Dashboard

/-- A group or a dashboard without an identifier goes by its name. -/
def identity (d : Dashboard) : DashboardId where
  product := d.product
  cluster := d.cluster
  group := d.groupId?.getD d.group
  dashboard := d.dashboardId?.getD d.name

end Dashboard

namespace Cypher

/-- Two nodes merged into an empty graph become one exactly if they have the same label and key. -/
theorem length_merged_eq_one_iff {n₁ n₂ : NodeRef} {sets₁ sets₂ : List Assignment}
    (keeps₁ : ∀ a ∈ sets₁, a.property ≠ keyProperty) (keeps₂ : ∀ a ∈ sets₂, a.property ≠ keyProperty) :
    (PropertyGraph.run [.node n₁ sets₁, .node n₂ sets₂] {}).nodes.length = 1 ↔ n₁ = n₂ := by
  have fits₁ := @nodeMerges_fits (.node n₁ sets₁) _ List.mem_cons_self keeps₁
  have fits₂ := @nodeMerges_fits (.node n₂ sets₂) _ List.mem_cons_self keeps₂
  have idents : (PropertyGraph.run [.node n₁ sets₁, .node n₂ sets₂] {}).nodes.map identOf =
      if n₂.ident = n₁.ident then [n₁.ident] else [n₁.ident, n₂.ident] := by
    have first := idents_apply fits₁ []
    rw [List.map_nil, if_neg List.not_mem_nil, List.nil_append] at first
    refine (idents_apply fits₂ _).trans ?_
    simp only [PropertyGraph.step, applyAll, Statement.nodeMerges, List.foldl_cons, List.foldl_nil, first,
      List.mem_singleton, List.singleton_append]
  have same : n₂.ident = n₁.ident ↔ n₁ = n₂ := by
    cases n₁
    cases n₂
    simp [NodeRef.ident, eq_comm]
  rw [← List.length_map identOf, idents, ← same]
  split <;> simp_all

end Cypher

namespace Dashboard

theorem node_ident (d : Dashboard) : d.node.label = "Dashboard" ∧ d.node.key = d.identity.key := by
  simp only [node, Node.withOptional_label, Node.withText_label, Node.withOptional_key, Node.withText_key, true_and]
  rfl

end Dashboard

namespace ModelKind

open Cypher

/-- A record that is bound to a dashboard makes its node, whatever was claimed before. -/
theorem node_of_build {record : Record} {c c' : Claims} {m : Model}
    (h : dashboard.build record c = .ok (m, c')) :
    ∃ d, Field.ofRecord dashboard.name Dashboard.shape record = .ok d ∧ d.node ∈ m.elements.nodes := by
  obtain ⟨s, bound, rfl, -⟩ := build_eq_ok h
  obtain ⟨d, fields, made⟩ := except_bind_ok.1 bound
  cases made
  exact ⟨d, fields, by simp [Subject.elements, Dashboard.elements, Dashboard.nodes]⟩

/-- **When two dashboards are one node.** Of any two records that are bound to dashboards, the keys of
the dashboards' nodes are the same exactly if the dashboards are the same, by product, cluster and
the identifiers or names of group and dashboard, or one runs into the other. Merging both nodes
then leaves one. Where no part but the last holds the mark behind it, the keys tell dashboards
apart. -/
theorem keys_of_dashboards {record₁ record₂ : Record} {c₁ c₁' c₂ c₂' : Claims} {m₁ m₂ : Model}
    (h₁ : dashboard.build record₁ c₁ = .ok (m₁, c₁')) (h₂ : dashboard.build record₂ c₂ = .ok (m₂, c₂')) :
    ∃ d₁ d₂, Field.ofRecord dashboard.name Dashboard.shape record₁ = .ok d₁ ∧ d₁.node ∈ m₁.elements.nodes ∧
      Field.ofRecord dashboard.name Dashboard.shape record₂ = .ok d₂ ∧ d₂.node ∈ m₂.elements.nodes ∧
      (d₁.node.key = d₂.node.key ↔ d₁.identity = d₂.identity ∨
        d₁.identity.RunsInto d₂.identity ∨ d₂.identity.RunsInto d₁.identity) ∧
      (d₁.identity.Plain → d₂.identity.Plain → (d₁.node.key = d₂.node.key ↔ d₁.identity = d₂.identity)) ∧
      ∀ sets₁ sets₂ : List Assignment, (∀ a ∈ sets₁, a.property ≠ keyProperty) →
        (∀ a ∈ sets₂, a.property ≠ keyProperty) →
        ((PropertyGraph.run [.node ⟨d₁.node.label, d₁.node.key⟩ sets₁,
          .node ⟨d₂.node.label, d₂.node.key⟩ sets₂] {}).nodes.length = 1 ↔ d₁.node.key = d₂.node.key) := by
  obtain ⟨d₁, fields₁, node₁⟩ := node_of_build h₁
  obtain ⟨d₂, fields₂, node₂⟩ := node_of_build h₂
  obtain ⟨label₁, key₁⟩ := d₁.node_ident
  obtain ⟨label₂, key₂⟩ := d₂.node_ident
  refine ⟨d₁, d₂, fields₁, node₁, fields₂, node₂, ?_, fun plain₁ plain₂ => ?_, fun sets₁ sets₂ keeps₁ keeps₂ => ?_⟩
  · rw [key₁, key₂, DashboardId.key_eq_key_iff]
  · rw [key₁, key₂, plain₁.key_eq_key_iff plain₂]
  · rw [length_merged_eq_one_iff keeps₁ keeps₂, NodeRef.mk.injEq, label₁, label₂, and_iff_right rfl]

/-- A dashboard of some group, both without identifiers. -/
def namedDashboard (group name : String) : Record :=
  [("dashboard_group", .text group), ("dashboard_name", .text name), ("product", .text "mode")]

/-- Two dashboards of a group have keys of their own. -/
theorem keys_of_twoDashboards : ∃ m₁ c₁ m₂ c₂,
    dashboard.build (namedDashboard "sales" "daily") {} = .ok (m₁, c₁) ∧
    dashboard.build (namedDashboard "sales" "weekly") {} = .ok (m₂, c₂) ∧
    ∃ d₁ d₂ : Dashboard, d₁.node ∈ m₁.elements.nodes ∧ d₂.node ∈ m₂.elements.nodes ∧
      d₁.identity = ⟨"mode", "gold", "sales", "daily"⟩ ∧ d₂.identity = ⟨"mode", "gold", "sales", "weekly"⟩ ∧
      d₁.node.key ≠ d₂.node.key ∧
      (PropertyGraph.run [.node ⟨d₁.node.label, d₁.node.key⟩ [], .node ⟨d₂.node.label, d₂.node.key⟩ []]
        {}).nodes.length ≠ 1 := by
  obtain ⟨⟨m₁, c₁⟩, h₁⟩ : ∃ built, dashboard.build (namedDashboard "sales" "daily") {} = .ok built := ⟨_, rfl⟩
  obtain ⟨⟨m₂, c₂⟩, h₂⟩ : ∃ built, dashboard.build (namedDashboard "sales" "weekly") {} = .ok built := ⟨_, rfl⟩
  obtain ⟨d₁, d₂, fields₁, node₁, fields₂, node₂, -, plain, merged⟩ := keys_of_dashboards h₁ h₂
  obtain rfl : _ = d₁ := Except.ok.inj fields₁
  obtain rfl : _ = d₂ := Except.ok.inj fields₂
  have apart := (plain (by decide +kernel) (by decide +kernel)).not.2 (by decide +kernel)
  exact ⟨m₁, c₁, m₂, c₂, h₁, h₂, _, _, node₁, node₂, rfl, rfl, apart, (merged [] [] nofun nofun).not.2 apart⟩

/-- **Two dashboards can be one node**: the slash in the name of the first stands where the second has
the end of its group. -/
theorem key_shared : ∃ m₁ c₁ m₂ c₂,
    dashboard.build (namedDashboard "sales" "eu/daily") {} = .ok (m₁, c₁) ∧
    dashboard.build (namedDashboard "sales/eu" "daily") {} = .ok (m₂, c₂) ∧
    ∃ d₁ d₂ : Dashboard, d₁.node ∈ m₁.elements.nodes ∧ d₂.node ∈ m₂.elements.nodes ∧
      d₁.identity = ⟨"mode", "gold", "sales", "eu/daily"⟩ ∧ d₂.identity = ⟨"mode", "gold", "sales/eu", "daily"⟩ ∧
      d₁.node.key = "mode_dashboard://gold.sales/eu/daily" ∧
      d₂.node.key = "mode_dashboard://gold.sales/eu/daily" ∧
      (PropertyGraph.run [.node ⟨d₁.node.label, d₁.node.key⟩ [], .node ⟨d₂.node.label, d₂.node.key⟩ []]
        {}).nodes.length = 1 := by
  obtain ⟨⟨m₁, c₁⟩, h₁⟩ : ∃ built, dashboard.build (namedDashboard "sales" "eu/daily") {} = .ok built := ⟨_, rfl⟩
  obtain ⟨⟨m₂, c₂⟩, h₂⟩ : ∃ built, dashboard.build (namedDashboard "sales/eu" "daily") {} = .ok built := ⟨_, rfl⟩
  obtain ⟨d₁, fields₁, node₁⟩ := node_of_build h₁
  obtain ⟨d₂, fields₂, node₂⟩ := node_of_build h₂
  obtain rfl : _ = d₁ := Except.ok.inj fields₁
  obtain rfl : _ = d₂ := Except.ok.inj fields₂
  exact ⟨m₁, c₁, m₂, c₂, h₁, h₂, _, _, node₁, node₂, rfl, rfl, by decide +kernel, by decide +kernel,
    by decide +kernel⟩

end ModelKind

end MetaGraph

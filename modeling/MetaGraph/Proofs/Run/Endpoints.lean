/-
Whether the ends of relations are emitted as nodes. The claims of a run
know keys and not labels, so a shared node is missing where the key was
claimed before for a node of another label. The main statement says that
nothing else is missing: each end of a relation of a dashboard or a metric
is emitted under its key, and under its label as well unless the first
claim of the key was for another one.
-/
import MetaGraph.Proofs.Graph.Validity
import MetaGraph.Proofs.Run.Claimed

namespace MetaGraph

/-! ## Elements that are handed out -/

/-- The models hand out the node. -/
def Emits (ms : List Model) (n : Node) : Prop := (∃ m ∈ ms, n ∈ m.elements.nodes) ∧ n.Valid

/-- The models hand out the relation. -/
def Relates (ms : List Model) (r : Relation) : Prop := (∃ m ∈ ms, r ∈ m.elements.relations) ∧ r.Valid

instance (ms : List Model) (r : Relation) : Decidable (Relates ms r) :=
  inferInstanceAs (Decidable (_ ∧ _))

/-! ## What a model asks for -/

namespace Subject

/-- The labels of the nodes that dashboards and metrics relate to and bring along. -/
def broughtLabels : List String := ["Cluster", "Dashboardgroup", "Tag", "Metrictype", "Description"]

/-- The relations of dashboards and metrics. -/
def relations : Subject → List Relation
  | dashboard d => d.relations
  | metric m => m.relations
  | _ => []

theorem label_of_mem_shared {s : Subject} {n : Node} (h : n ∈ s.shared) :
    n.label ∈ ["Cluster", "Dashboardgroup", "Tag", "Metrictype"] := by
  have all (kind : ModelKind) : kind.guardedLabels ⊆ ["Cluster", "Dashboardgroup", "Tag", "Metrictype"] := by
    cases kind <;> simp [ModelKind.guardedLabels]
  exact all s.kind (label_mem_guardedLabels h)

/-- Of its own accord a dashboard or a metric emits a tag only if it is a dashboard's. -/
theorem label_of_mem_unshared {s : Subject} (hs : s.kind = .dashboard ∨ s.kind = .metric) {n : Node}
    (h : n ∈ s.unshared) (hl : n.label ∈ broughtLabels) :
    n.label = "Description" ∨ (n.label = "Tag" ∧ ∃ d, s = .dashboard d ∧ n.key ∈ d.tags) := by
  cases s with
  | dashboard d =>
    simp only [unshared, List.mem_append, List.mem_singleton, List.mem_map, Option.mem_toList,
      Option.map_eq_some_iff] at h
    rcases h with ((rfl | ⟨text, _, rfl⟩) | ⟨text, _, rfl⟩) | ⟨tag, ht, rfl⟩
    · simp [Dashboard.node, broughtLabels] at hl
    · exact .inl rfl
    · exact .inl rfl
    · exact .inr ⟨rfl, d, rfl, ht⟩
  | metric m =>
    simp only [unshared, List.mem_append, List.mem_singleton, Option.mem_toList,
      Option.map_eq_some_iff] at h
    rcases h with rfl | ⟨text, _, rfl⟩
    · simp [Metric.node, broughtLabels] at hl
    · exact .inl rfl
  | _ => simp [kind] at hs

theorem tagNode_mem_unshared {d : Dashboard} {tag : String} (h : tag ∈ d.tags) :
    Dashboard.tagNode "dashboard" tag ∈ (dashboard d).unshared :=
  List.mem_append_right _ (List.mem_map_of_mem h)

/-- Each end of a relation is asked for by the model of the relation itself. -/
theorem asked_of_mem_ends {s : Subject} (hg : ∀ d, s = .dashboard d → d.group ≠ "") {r : Relation}
    (hr : r ∈ s.relations) {label key : String} (he : (label, key) ∈ r.ends)
    (hl : label ∈ broughtLabels) :
    ∃ n, (n ∈ s.shared ∨ n ∈ s.unshared) ∧ n.label = label ∧ n.key = key := by
  simp only [Relation.ends, List.mem_cons, Prod.mk.injEq, List.not_mem_nil, or_false] at he
  cases s with
  | dashboard d =>
    have cluster : d.clusterNode ∈ (dashboard d).shared := by simp [shared]
    have group : d.groupNode ∈ (dashboard d).shared := by simp [shared, hg d rfl]
    simp only [relations, Dashboard.relations, List.mem_append, List.mem_singleton, List.mem_map,
      Option.mem_toList, Option.map_eq_some_iff] at hr
    rcases hr with (((rfl | ⟨text, ht, rfl⟩) | rfl) | ⟨text, ht, rfl⟩) | ⟨tag, ht, rfl⟩ <;>
      rcases he with ⟨rfl, rfl⟩ | ⟨rfl, rfl⟩
    · exact ⟨_, .inl cluster, by simp [Dashboard.clusterNode, Dashboard.clusterRelation]⟩
    · exact ⟨_, .inl group, by simp [Dashboard.groupNode, Dashboard.clusterRelation]⟩
    · exact ⟨_, .inl group, by simp [Dashboard.groupNode, Dashboard.descriptionRelation]⟩
    · exact ⟨Dashboard.descriptionNode (descriptionKey d.groupKey) text, .inr (by simp [unshared, ht]), rfl, rfl⟩
    · simp [Dashboard.groupRelation, broughtLabels] at hl
    · exact ⟨_, .inl group, by simp [Dashboard.groupNode, Dashboard.groupRelation]⟩
    · simp [Dashboard.descriptionRelation, broughtLabels] at hl
    · exact ⟨Dashboard.descriptionNode (descriptionKey d.key) text, .inr (by simp [unshared, ht]), rfl, rfl⟩
    · simp [Dashboard.tagRelation, broughtLabels] at hl
    · exact ⟨Dashboard.tagNode "dashboard" key, .inr (tagNode_mem_unshared ht), rfl, rfl⟩
  | metric m =>
    simp only [relations, Metric.relations, List.mem_append, List.mem_singleton, List.mem_map,
      Option.mem_toList, Option.map_eq_some_iff] at hr
    rcases hr with ((rfl | ⟨text, ht, rfl⟩) | ⟨tag, ht, rfl⟩) | ⟨type, ht, rfl⟩ <;>
      rcases he with ⟨rfl, rfl⟩ | ⟨rfl, rfl⟩
    · simp [Metric.dashboardRelation, broughtLabels] at hl
    · simp [Metric.dashboardRelation, broughtLabels] at hl
    · simp [Dashboard.descriptionRelation, broughtLabels] at hl
    · exact ⟨Dashboard.descriptionNode (descriptionKey m.key) text, .inr (by simp [unshared, ht]), rfl, rfl⟩
    · simp [Dashboard.tagRelation, broughtLabels] at hl
    · exact ⟨Dashboard.tagNode "metric" key, .inl (List.mem_append_left _ (List.mem_map_of_mem ht)), rfl, rfl⟩
    · simp [Metric.typeRelation, broughtLabels] at hl
    · exact ⟨Metric.typeNode type, .inl (by simp [shared, ht]), rfl, rfl⟩
  | _ => cases hr

end Subject

/-! ## Runs of dashboards and metrics -/

namespace ModelKind

theorem build_kind {kind : ModelKind} {record : Record} {c c' : Claims} {m : Model}
    (h : kind.build record c = .ok (m, c')) : m.subject.kind = kind := by
  obtain ⟨s, hs, rfl, -⟩ := build_eq_ok h
  exact subject_kind hs

/-- A model emits relations of its subject; a metric those that it claims. -/
theorem build_relations {kind : ModelKind} (hk : kind = .dashboard ∨ kind = .metric) {record : Record}
    {c c' : Claims} {m : Model} (h : kind.build record c = .ok (m, c')) :
    m.elements.relations ⊆ m.subject.relations := by
  obtain ⟨s, hs, rfl, -⟩ := build_eq_ok h
  have isKind := subject_kind hs
  cases s with
  | dashboard d => exact List.Subset.refl _
  | metric m => exact (c.claimRelations_sublist m.relations).subset
  | _ => rcases hk with rfl | rfl <;> cases isKind

end ModelKind

section Endpoints

variable {records : List (ModelKind × Record)} {n : Node}

/-- A shared node is emitted if it is the first of its key that the models ask for. -/
theorem mem_nodes_iff :
    (∃ m ∈ (ModelKind.buildAll records {}).1, n ∈ m.elements.nodes) ↔
      ((ModelKind.buildAll records {}).1.flatMap (·.subject.shared)).find? (·.key == n.key) = some n ∨
        ∃ m ∈ (ModelKind.buildAll records {}).1, n ∈ m.subject.unshared := by
  have perm := (ModelKind.buildAll_nodes records {}).mem_iff (a := n)
  rw [List.mem_flatMap, List.mem_append, Claims.mem_claimNodes_iff, List.mem_flatMap] at perm
  rw [perm]
  exact or_congr_left (and_iff_right rfl)

/-- The first node of a key that is asked for is emitted, whatever its label. -/
theorem emits_of_first {key : String} (hkey : key ≠ "")
    (hf : ((ModelKind.buildAll records {}).1.flatMap (·.subject.shared)).find? (·.key == key) = some n) :
    Emits (ModelKind.buildAll records {}).1 n ∧ n.key = key := by
  obtain rfl : n.key = key := by simpa using List.find?_some hf
  obtain ⟨m, _, hs⟩ := List.mem_flatMap.1 (List.mem_of_find?_eq_some hf)
  have hc : checkLabel n.label = .ok () := by
    have := Subject.label_of_mem_shared hs
    simp only [List.mem_cons, List.not_mem_nil, or_false] at this
    rcases this with h | h | h | h <;> rw [h] <;> rfl
  exact ⟨⟨mem_nodes_iff.2 (.inl hf), Node.valid_iff.2 ⟨hkey, hc⟩⟩, rfl⟩

theorem kind_of_mem (kinds : ∀ entry ∈ records, entry.1 = .dashboard ∨ entry.1 = .metric) {m : Model}
    (h : m ∈ (ModelKind.buildAll records {}).1) :
    (m.subject.kind = .dashboard ∨ m.subject.kind = .metric) ∧
      m.elements.relations ⊆ m.subject.relations := by
  obtain ⟨kind, record, before, after, hm, hb⟩ := ModelKind.mem_buildAll h
  have hk := kinds _ hm
  exact ⟨ModelKind.build_kind hb ▸ hk, ModelKind.build_relations hk hb⟩

/-- **The ends of relations are emitted under their keys**, in every run of dashboards, each in
a group with a name, and metrics. An end is emitted under its label as well exactly where it is
a description, where the node of its key that the models of the run ask for first has that
label, or where it is a tag of a dashboard. -/
theorem ends_emitted (kinds : ∀ entry ∈ records, entry.1 = .dashboard ∨ entry.1 = .metric)
    (grouped : ∀ m ∈ (ModelKind.buildAll records {}).1, ∀ d, m.subject = .dashboard d → d.group ≠ "")
    {r : Relation} (hr : Relates (ModelKind.buildAll records {}).1 r) {label key : String}
    (he : (label, key) ∈ r.ends)
    (hl : label ∈ ["Cluster", "Dashboardgroup", "Tag", "Metrictype", "Description"]) :
    (∃ n, Emits (ModelKind.buildAll records {}).1 n ∧ n.key = key) ∧
      ((∃ n, Emits (ModelKind.buildAll records {}).1 n ∧ n.label = label ∧ n.key = key) ↔
        label = "Description" ∨
          (((ModelKind.buildAll records {}).1.flatMap (·.subject.shared)).find? (·.key == key)).map
            Node.label = some label ∨
          (label = "Tag" ∧ ∃ m ∈ (ModelKind.buildAll records {}).1, ∃ d,
            m.subject = .dashboard d ∧ key ∈ d.tags)) := by
  obtain ⟨⟨m, hm, hr⟩, hv⟩ := hr
  obtain ⟨hkey, hlabel⟩ := hv.ends he
  obtain ⟨hk, hsub⟩ := kind_of_mem kinds hm
  obtain ⟨n, hn, rfl, rfl⟩ := Subject.asked_of_mem_ends (grouped m hm) (hsub hr) he hl
  have valid : n.Valid := Node.valid_iff.2 ⟨hkey, hlabel⟩
  refine ⟨?_, ⟨?_, ?_⟩⟩
  · rcases hn with hn | hn
    · have some : (((ModelKind.buildAll records {}).1.flatMap (·.subject.shared)).find?
          (·.key == n.key)).isSome :=
        List.find?_isSome.2 ⟨n, List.mem_flatMap.2 ⟨m, hm, hn⟩, by simp⟩
      obtain ⟨other, hf⟩ := Option.isSome_iff_exists.1 some
      exact ⟨other, emits_of_first hkey hf⟩
    · exact ⟨n, ⟨mem_nodes_iff.2 (.inr ⟨m, hm, hn⟩), valid⟩, rfl⟩
  · rintro ⟨other, ⟨ho, _⟩, hol, hok⟩
    rw [mem_nodes_iff] at ho
    rcases ho with hf | ⟨m', hm', ho⟩
    · rw [hok] at hf
      exact .inr (.inl (by rw [hf, Option.map_some, hol]))
    · rcases Subject.label_of_mem_unshared (kind_of_mem kinds hm').1 ho (hol ▸ hl) with h | ⟨h, d, hd, ht⟩
      · exact .inl (hol ▸ h)
      · exact .inr (.inr ⟨hol ▸ h, m', hm', d, hd, hok ▸ ht⟩)
  · rintro (h | h | ⟨h, m', hm', d, hd, ht⟩)
    · rcases hn with hn | hn
      · have := Subject.label_of_mem_shared hn
        simp [h] at this
      · exact ⟨n, ⟨mem_nodes_iff.2 (.inr ⟨m, hm, hn⟩), valid⟩, rfl, rfl⟩
    · obtain ⟨other, hf, hol⟩ := Option.map_eq_some_iff.1 h
      obtain ⟨emits, hok⟩ := emits_of_first hkey hf
      exact ⟨other, emits, hol, hok⟩
    · have tag : Dashboard.tagNode "dashboard" n.key ∈ m'.subject.unshared :=
        hd ▸ Subject.tagNode_mem_unshared ht
      have emits := mem_nodes_iff.2 (.inr ⟨m', hm', tag⟩)
      have valid : (Dashboard.tagNode "dashboard" n.key).Valid :=
        Node.valid_iff.2 ⟨hkey, (congrArg checkLabel h).symm.trans hlabel⟩
      exact ⟨_, ⟨emits, valid⟩, h.symm, rfl⟩

end Endpoints

/-! ## A tag that takes the key of a cluster -/

namespace Run

/-- A metric with a tag, and a dashboard of no product in the cluster of that name. -/
def tagged (tag : String) : List (ModelKind × Record) :=
  [(.metric, [("dashboard_group", .text "sales"), ("dashboard_name", .text "daily"),
      ("expression", .text "sum(x)"), ("name", .text "total"), ("tags", .array [.text tag])]),
    (.dashboard, [("dashboard_group", .text "sales"), ("dashboard_name", .text "daily")])]

def clusterEnd : Relation where
  startLabel := "Cluster"
  startKey := "_dashboard://gold"
  endLabel := "Dashboardgroup"
  endKey := "_dashboard://gold.sales"
  kind := "DASHBOARD_GROUP"
  reverseKind := "DASHBOARD_GROUP_OF"

/-- With another tag, or with none, the cluster is there. -/
theorem ends_emitted_tagged :
    Relates (ModelKind.buildAll (tagged "money") {}).1 clusterEnd ∧
      (∃ n, Emits (ModelKind.buildAll (tagged "money") {}).1 n ∧ n.key = "_dashboard://gold") ∧
      ∃ n, Emits (ModelKind.buildAll (tagged "money") {}).1 n ∧ n.label = "Cluster" ∧
        n.key = "_dashboard://gold" := by
  have hr : Relates (ModelKind.buildAll (tagged "money") {}).1 clusterEnd := by decide +kernel
  have named : (ModelKind.buildAll (tagged "money") {}).1.all (fun m =>
      match m.subject with
      | .dashboard d => d.group != ""
      | _ => true) = true := by decide +kernel
  have isEnd : ("Cluster", "_dashboard://gold") ∈ clusterEnd.ends := by simp [Relation.ends, clusterEnd]
  have ends := ends_emitted (by simp [tagged])
    (fun m hm d hd => by simpa [hd] using List.all_eq_true.1 named m hm) hr isEnd (by simp)
  exact ⟨hr, ends.1, ends.2.2 (.inr (.inl (by decide +kernel)))⟩

/-- The metric claims the key of the cluster for its tag, so the dashboard that comes after it
relates to a cluster that no model of the run emits. -/
theorem cluster_not_emitted :
    (tagged "_dashboard://gold").map Prod.fst = [.metric, .dashboard] ∧
      Relates (ModelKind.buildAll (tagged "_dashboard://gold") {}).1 clusterEnd ∧
      ¬ ∃ n, Emits (ModelKind.buildAll (tagged "_dashboard://gold") {}).1 n ∧ n.label = "Cluster" ∧
        n.key = "_dashboard://gold" := by
  have absent : (ModelKind.buildAll (tagged "_dashboard://gold") {}).1.all (fun m =>
      m.elements.nodes.all fun n => n.label != "Cluster") = true := by decide +kernel
  refine ⟨rfl, by decide +kernel, ?_⟩
  rintro ⟨n, ⟨⟨m, hm, hn⟩, _⟩, hl, _⟩
  have := List.all_eq_true.1 (List.all_eq_true.1 absent m hm) n hn
  simp [hl] at this

end Run

end MetaGraph

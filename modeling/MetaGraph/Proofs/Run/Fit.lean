/-
Built models are fit to be loaded. All but badges take their labels and types
from fixed words and never leave a key empty, so whatever is pulled from them
passes its check. Badges are pulled as their record names them, and fail
where it names them badly.
-/
import MetaGraph.Proofs.Bulk.Elements
import MetaGraph.Proofs.Run.Once

namespace MetaGraph

/-! ## Fixed words -/

/-- The labels of the elements of all models, but for what badges are attached to. -/
def fixedLabels : List String :=
  ["Badge", "Cluster", "Column", "Dashboard", "Dashboardgroup", "Description", "Execution", "Metric",
    "Metrictype", "Query", "Stat", "Table", "Tag", "Timestamp", "Watermark"]

/-- The types of the relations of all models, in both directions. -/
def fixedTypes : List String :=
  ["BADGE_FOR", "BELONG_TO_TABLE", "DASHBOARD", "DASHBOARD_GROUP", "DASHBOARD_GROUP_OF", "DASHBOARD_OF",
    "DASHBOARD_WITH_TABLE", "DESCRIPTION", "DESCRIPTION_OF", "EXECUTED", "EXECUTION_OF", "HAS_BADGE",
    "HAS_QUERY", "LAST_EXECUTED", "LAST_EXECUTION_OF", "LAST_UPDATED_AT", "LAST_UPDATED_TIME_OF", "METRIC",
    "METRIC_OF", "METRIC_TYPE", "METRIC_TYPE_OF", "QUERY_OF", "STAT", "STAT_OF", "TABLE_OF_DASHBOARD",
    "TAG", "TAG_OF", "WATERMARK"]

theorem checkLabel_of_fixed {label : String} (h : label ∈ fixedLabels) : checkLabel label = .ok () := by
  rw [checkLabel_eq_ok_iff]
  revert label
  decide +kernel

theorem checkRelationType_of_fixed {type : String} (h : type ∈ fixedTypes) :
    checkRelationType type = .ok () := by
  rw [checkRelationType_eq_ok_iff]
  revert type
  decide +kernel

/-- A node with a key and a fixed label. -/
structure Node.Fixed (n : Node) : Prop where
  key : n.key ≠ ""
  label : n.label ∈ fixedLabels

theorem Node.Fixed.valid {n : Node} (h : n.Fixed) : n.Valid :=
  Node.valid_iff.2 ⟨h.key, checkLabel_of_fixed h.label⟩

/-- A relation between keys all of whose words are fixed. -/
structure Relation.Fixed (r : Relation) : Prop where
  startKey : r.startKey ≠ ""
  endKey : r.endKey ≠ ""
  labels : r.startLabel ∈ fixedLabels ∧ r.endLabel ∈ fixedLabels
  types : r.kind ∈ fixedTypes ∧ r.reverseKind ∈ fixedTypes

theorem Relation.fixed_of_words {startLabel startKey endLabel endKey kind reverseKind : String}
    {attributes : KeyMap Json}
    (words : (startLabel ∈ fixedLabels ∧ endLabel ∈ fixedLabels) ∧
      kind ∈ fixedTypes ∧ reverseKind ∈ fixedTypes)
    (start : startKey ≠ "") (stop : endKey ≠ "") :
    (⟨startLabel, startKey, endLabel, endKey, kind, reverseKind, attributes⟩ : Relation).Fixed :=
  ⟨start, stop, words.1, words.2⟩

theorem Relation.Fixed.valid {r : Relation} (h : r.Fixed) : r.Valid :=
  Relation.valid_iff.2 ⟨h.startKey, h.endKey, checkLabel_of_fixed h.labels.1, checkLabel_of_fixed h.labels.2,
    checkRelationType_of_fixed h.types.1, checkRelationType_of_fixed h.types.2⟩

/-! ## Keys -/

theorem tableKey_ne_empty (db cluster schema table : String) : tableKey db cluster schema table ≠ "" := by
  simp [tableKey]

theorem clusterKey_ne_empty (product cluster : String) : clusterKey product cluster ≠ "" := by
  simp [clusterKey]

theorem dashboardGroupKey_ne_empty (product cluster group : String) :
    dashboardGroupKey product cluster group ≠ "" := by
  simp [dashboardGroupKey]

theorem dashboardKey_ne_empty (product cluster group dashboard : String) :
    dashboardKey product cluster group dashboard ≠ "" := by
  simp [dashboardKey]

theorem descriptionKey_ne_empty (key : String) : descriptionKey key ≠ "" := by
  simp [descriptionKey]

namespace ModelKind

variable {kind : ModelKind} {record : Record} {s : Subject} {c c' : Claims} {m : Model}

theorem dashboardTags_given {d : Dashboard} (h : kind.subject record = .ok (.dashboard d)) :
    "" ∉ d.tags := by
  obtain rfl : ModelKind.dashboard = kind := subject_kind h
  obtain ⟨d', fields, hd⟩ := except_bind_ok.1 h
  cases hd
  exact Dashboard.tags_given fields

theorem badges_of_subject {b : BadgeSet} (h : kind.subject record = .ok (.badge b)) :
    Field.ofRecord kind.name BadgeSet.shape record = .ok b := by
  obtain rfl : ModelKind.badge = kind := subject_kind h
  obtain ⟨b', fields, hb⟩ := except_bind_ok.1 h
  cases hb
  exact fields

/-! ## Models other than badges -/

theorem fixed_of_mem_shared (h : kind.subject record = .ok s) {n : Node} (hn : n ∈ s.shared) : n.Fixed := by
  cases s with
  | dashboard d =>
    simp only [Subject.shared, List.mem_append, List.mem_singleton] at hn
    rcases hn with rfl | hn
    · exact ⟨clusterKey_ne_empty _ _, by simp [Dashboard.clusterNode, fixedLabels]⟩
    · split at hn
      · cases hn
      · rw [List.mem_singleton.1 hn]
        exact ⟨by simp [Dashboard.groupNode, Dashboard.groupKey, dashboardGroupKey],
          by simp [Dashboard.groupNode, fixedLabels]⟩
  | metric m =>
    simp only [Subject.shared, List.mem_append, List.mem_map, Option.mem_toList,
      Option.map_eq_some_iff] at hn
    rcases hn with ⟨tag, ht, rfl⟩ | ⟨type, -, rfl⟩
    · exact ⟨fun he : tag = "" => tags_given h (he ▸ ht), by simp [Dashboard.tagNode, fixedLabels]⟩
    · exact ⟨by simp [Metric.typeNode, metricTypeKey], by simp [Metric.typeNode, fixedLabels]⟩
  | _ => cases hn

theorem fixed_of_mem_unshared (h : kind.subject record = .ok s) (other : kind ≠ .badge) {n : Node}
    (hn : n ∈ s.unshared) : n.Fixed := by
  cases s with
  | badge b => exact absurd (subject_kind h).symm other
  | dashboardTable t => cases hn
  | dashboard d =>
    simp only [Subject.unshared, List.mem_append, List.mem_singleton, List.mem_map, Option.mem_toList,
      Option.map_eq_some_iff] at hn
    rcases hn with ((rfl | ⟨text, -, rfl⟩) | ⟨text, -, rfl⟩) | ⟨tag, ht, rfl⟩
    · exact ⟨by simp [Dashboard.node, Dashboard.key, dashboardKey], by simp [Dashboard.node, fixedLabels]⟩
    · exact ⟨descriptionKey_ne_empty _, by simp [Dashboard.descriptionNode, fixedLabels]⟩
    · exact ⟨descriptionKey_ne_empty _, by simp [Dashboard.descriptionNode, fixedLabels]⟩
    · exact ⟨fun he : tag = "" => dashboardTags_given h (he ▸ ht), by simp [Dashboard.tagNode, fixedLabels]⟩
  | metric m =>
    simp only [Subject.unshared, List.mem_append, List.mem_singleton, Option.mem_toList,
      Option.map_eq_some_iff] at hn
    rcases hn with rfl | ⟨text, -, rfl⟩
    · exact ⟨by simp [Metric.node, Metric.key, metricKey], by simp [Metric.node, fixedLabels]⟩
    · exact ⟨descriptionKey_ne_empty _, by simp [Dashboard.descriptionNode, fixedLabels]⟩
  | watermark w =>
    rw [List.mem_singleton.1 hn]
    exact ⟨by simp [Watermark.node, Watermark.key], by simp [Watermark.node, fixedLabels]⟩
  | columnStat s =>
    rw [List.mem_singleton.1 hn]
    exact ⟨by simp [ColumnStat.node, ColumnStat.key], by simp [ColumnStat.node, fixedLabels]⟩
  | lastExecution e =>
    rw [List.mem_singleton.1 hn]
    exact ⟨by simp [LastExecution.node, LastExecution.key], by simp [LastExecution.node, fixedLabels]⟩
  | lastModified e =>
    rw [List.mem_singleton.1 hn]
    exact ⟨by simp [LastModified.node, LastModified.key], by simp [LastModified.node, fixedLabels]⟩
  | dashboardQuery q =>
    rw [List.mem_singleton.1 hn]
    exact ⟨by simp [DashboardQuery.node, DashboardQuery.key], by simp [DashboardQuery.node, fixedLabels]⟩
  | execution e =>
    rw [List.mem_singleton.1 hn]
    exact ⟨by simp [Execution.node, Execution.key], by simp [Execution.node, fixedLabels]⟩

theorem fixed_of_mem_elements (h : kind.subject record = .ok s) (other : kind ≠ .badge) {r : Relation}
    (hr : r ∈ (s.elements c).1.relations) : r.Fixed := by
  cases s with
  | badge b => exact absurd (subject_kind h).symm other
  | metric m =>
    have hr : r ∈ m.relations := (c.claimRelations_sublist m.relations).subset hr
    simp only [Metric.relations, List.mem_append, List.mem_singleton, List.mem_map, Option.mem_toList,
      Option.map_eq_some_iff] at hr
    have key : m.key ≠ "" := by simp [Metric.key, metricKey]
    rcases hr with ((rfl | ⟨text, -, rfl⟩) | ⟨tag, ht, rfl⟩) | ⟨type, -, rfl⟩
    · exact Relation.fixed_of_words (by decide) key (by simp [Metric.dashboardKey])
    · exact Relation.fixed_of_words (by decide) key (descriptionKey_ne_empty _)
    · exact Relation.fixed_of_words (by decide) key fun he : tag = "" => tags_given h (he ▸ ht)
    · exact Relation.fixed_of_words (by decide) key (by simp [metricTypeKey])
  | dashboard d =>
    change r ∈ d.relations at hr
    simp only [Dashboard.relations, List.mem_append, List.mem_singleton, List.mem_map, Option.mem_toList,
      Option.map_eq_some_iff] at hr
    rcases hr with (((rfl | ⟨text, -, rfl⟩) | rfl) | ⟨text, -, rfl⟩) | ⟨tag, ht, rfl⟩
    · exact Relation.fixed_of_words (by decide)
        (clusterKey_ne_empty _ _) (dashboardGroupKey_ne_empty _ _ _)
    · exact Relation.fixed_of_words (by decide)
        (dashboardGroupKey_ne_empty _ _ _) (descriptionKey_ne_empty _)
    · exact Relation.fixed_of_words (by decide)
        (dashboardKey_ne_empty _ _ _ _) (dashboardGroupKey_ne_empty _ _ _)
    · exact Relation.fixed_of_words (by decide)
        (dashboardKey_ne_empty _ _ _ _) (descriptionKey_ne_empty _)
    · exact Relation.fixed_of_words (by decide)
        (dashboardKey_ne_empty _ _ _ _) (fun he : tag = "" => dashboardTags_given h (he ▸ ht))
  | dashboardTable t =>
    obtain ⟨address, -, rfl⟩ := List.mem_map.1 hr
    exact Relation.fixed_of_words (by decide)
      (dashboardKey_ne_empty _ _ _ _) (tableKey_ne_empty _ _ _ _)
  | watermark w =>
    rw [List.mem_singleton.1 hr]
    exact Relation.fixed_of_words (by decide)
      (by simp [Watermark.key]) (tableKey_ne_empty _ _ _ _)
  | columnStat s =>
    rw [List.mem_singleton.1 hr]
    exact Relation.fixed_of_words (by decide)
      (by simp [ColumnStat.key]) (by simp [ColumnStat.columnKey])
  | lastExecution e =>
    rw [List.mem_singleton.1 hr]
    exact Relation.fixed_of_words (by decide)
      (dashboardKey_ne_empty _ _ _ _) (by simp [LastExecution.key])
  | lastModified e =>
    rw [List.mem_singleton.1 hr]
    exact Relation.fixed_of_words (by decide)
      (dashboardKey_ne_empty _ _ _ _) (by simp [LastModified.key])
  | dashboardQuery q =>
    rw [List.mem_singleton.1 hr]
    exact Relation.fixed_of_words (by decide)
      (dashboardKey_ne_empty _ _ _ _) (by simp [DashboardQuery.key])
  | execution e =>
    rw [List.mem_singleton.1 hr]
    exact Relation.fixed_of_words (by decide)
      (dashboardKey_ne_empty _ _ _ _) (by simp [Execution.key])

/-- A model other than a badge hands out nothing but fixed elements. -/
theorem fixed_of_build (h : kind.build record c = .ok (m, c')) (other : kind ≠ .badge) :
    (∀ n ∈ m.elements.nodes, n.Fixed) ∧ ∀ r ∈ m.elements.relations, r.Fixed := by
  have perm := (build_nodes h).1
  obtain ⟨s, hs, rfl, -⟩ := build_eq_ok h
  refine ⟨fun n hn => ?_, fun r hr => fixed_of_mem_elements hs other hr⟩
  rcases List.mem_append.1 (perm.mem_iff.1 hn) with hn | hn
  · exact fixed_of_mem_shared hs (List.mem_of_find?_eq_some (Claims.mem_claimNodes_iff.1 hn).2)
  · exact fixed_of_mem_unshared hs other hn

end ModelKind

/-! ## Badges -/

theorem Badge.not_valid_node {b : Badge} : ¬ b.node.Valid ↔ b.name = "" := by
  have label : checkLabel "Badge" = .ok () := checkLabel_of_fixed (by decide)
  simp [Node.valid_iff, Badge.node, label]

theorem BadgeSet.not_valid_relation {s : BadgeSet} {b : Badge} :
    ¬ (s.relation b).Valid ↔ s.startKey = "" ∨ b.name = "" ∨ ¬ IsCapitalized s.startLabel := by
  have label : checkLabel "Badge" = .ok () := checkLabel_of_fixed (by decide)
  have forth : checkRelationType "HAS_BADGE" = .ok () := checkRelationType_of_fixed (by decide)
  have back : checkRelationType "BADGE_FOR" = .ok () := checkRelationType_of_fixed (by decide)
  simp [Relation.valid_iff, BadgeSet.relation, label, forth, back, checkLabel_iff, imp_iff_not_or]

/-! ## Pulls and loads -/

namespace ModelKind

variable {kind : ModelKind} {record : Record} {c c' : Claims} {m : Model}

/-- **Built models are fit to be loaded**, whatever the run had claimed before. From a model other
than a badge every pull, in whatever order nodes and relations are pulled, brings the next element
or the end, and loading what is left of it never fails because of the graph. The badges of a record
are pulled in its order: a node fails if the badge has no name, and a relation if the badge or the
key of what it is attached to is missing or the label is no capitalized word. -/
theorem pulls_of_build (h : kind.build record c = .ok (m, c')) (pulls : List Side) :
    (kind ≠ .badge →
      (m.elements.after pulls).nextNode.1 = .ok m.elements.nodes[pulls.count .nodes]? ∧
      (m.elements.after pulls).nextRelation.1 = .ok m.elements.relations[pulls.count .relations]? ∧
      ∀ config b e,
        ((BulkLoader.load config).load (.model { m with elements := m.elements.after pulls }) b).1 ≠
          .error (.graph e)) ∧
    (kind = .badge → ∃ s, Field.ofRecord kind.name BadgeSet.shape record = .ok s ∧
      m = ⟨.badge s, s.elements⟩ ∧
      ((m.elements.after pulls).nextNode.1.isOk = false ↔
        ∃ b, s.badges[pulls.count .nodes]? = some b ∧ b.name = "") ∧
      ((m.elements.after pulls).nextRelation.1.isOk = false ↔
        ∃ b, s.badges[pulls.count .relations]? = some b ∧
          (s.startKey = "" ∨ b.name = "" ∨ ¬ IsCapitalized s.startLabel))) := by
  rw [Cursor.nextNode_after, Cursor.nextRelation_after]
  refine ⟨fun other => ?_, ?_⟩
  · obtain ⟨nodes, relations⟩ := fixed_of_build h other
    refine ⟨Pull.result_of_valid fun n hn => (nodes n (List.mem_of_getElem? hn)).valid,
      Pull.result_of_valid fun r hr => (relations r (List.mem_of_getElem? hr)).valid, fun config b e => ?_⟩
    -- What is left is part of what the model was built with.
    rw [Cursor.after_eq]
    change (BulkFiles.writeModel config b _).1 ≠ _
    rw [BulkFiles.writeModel_eq]
    refine BulkFiles.writeAll_ne_graph (fun x hx => ?_) e
    simp only [Model.pulled, List.mem_append, List.mem_map] at hx
    rcases hx with ⟨n, hn, rfl⟩ | ⟨r, hr, rfl⟩
    · exact (nodes n (List.mem_of_mem_drop hn)).valid
    · exact (relations r (List.mem_of_mem_drop hr)).valid
  · rintro rfl
    obtain ⟨s, hs, rfl, -⟩ := build_eq_ok h
    cases s with
    | badge s =>
      refine ⟨s, badges_of_subject hs, rfl, ?_, ?_⟩
      · simp only [Pull.result_isOk, Subject.elements, BadgeSet.elements, List.getElem?_map,
          Option.map_eq_some_iff, exists_exists_and_eq_and]
        exact exists_congr fun b => and_congr_right fun _ => Badge.not_valid_node
      · simp only [Pull.result_isOk, Subject.elements, BadgeSet.elements, List.getElem?_map,
          Option.map_eq_some_iff, exists_exists_and_eq_and]
        exact exists_congr fun b => and_congr_right fun _ => BadgeSet.not_valid_relation
    | _ => cases subject_kind hs

/-- A dashboard one of whose tags is empty. -/
def looselyTagged : Record :=
  [("dashboard_group", .text "sales"), ("dashboard_name", .text "daily"),
    ("tags", .array [.text "", .text "money"])]

/-- Two badges of a column, the second without a name. -/
def looseBadges : Record :=
  [("badges", .array [.object [("category", .text "column"), ("name", .text "pk")],
      .object [("category", .text "column"), ("name", .text "")]]),
    ("start_key", .text "hive://gold.core/users/id"), ("start_label", .text "Column")]

/-- The dashboard's third pull of a node brings the group, and the badges' second the fault. -/
theorem pulls_of_build_loose :
    (∃ m c', dashboard.build looselyTagged {} = .ok (m, c') ∧
      (m.elements.after [.nodes, .relations, .nodes]).nextNode.1 = .ok m.elements.nodes[2]? ∧
      m.elements.nodes[2]?.map Node.label = some "Dashboardgroup") ∧
    ∃ m c', badge.build looseBadges {} = .ok (m, c') ∧
      (m.elements.after []).nextNode.1.isOk = true ∧
      (m.elements.after [.nodes]).nextNode.1.isOk = false ∧
      (m.elements.after [.nodes, .relations]).nextRelation.1.isOk = false := by
  refine ⟨?_, ?_⟩
  · obtain ⟨⟨m, c'⟩, h, label⟩ : ∃ built, dashboard.build looselyTagged {} = .ok built ∧
        built.1.elements.nodes[2]?.map Node.label = some "Dashboardgroup" := ⟨_, rfl, by decide +kernel⟩
    exact ⟨m, c', h, ((pulls_of_build h _).1 (by decide)).1, label⟩
  · obtain ⟨⟨m, c'⟩, h⟩ : ∃ built, badge.build looseBadges {} = .ok built := ⟨_, rfl⟩
    have fields : Field.ofRecord badge.name BadgeSet.shape looseBadges =
        .ok ⟨"Column", "hive://gold.core/users/id", [⟨"pk", "column"⟩, ⟨"", "column"⟩]⟩ := by rfl
    refine ⟨m, c', h, ?_, ?_, ?_⟩
    · obtain ⟨s, hs, -, node, -⟩ := (pulls_of_build h []).2 rfl
      obtain rfl := Except.ok.inj (fields.symm.trans hs)
      rw [← Bool.not_eq_false, node]
      decide +kernel
    · obtain ⟨s, hs, -, node, -⟩ := (pulls_of_build h [.nodes]).2 rfl
      obtain rfl := Except.ok.inj (fields.symm.trans hs)
      exact node.2 ⟨⟨"", "column"⟩, rfl, rfl⟩
    · obtain ⟨s, hs, -, -, relation⟩ := (pulls_of_build h [.nodes, .relations]).2 rfl
      obtain rfl := Except.ok.inj (fields.symm.trans hs)
      exact relation.2 ⟨⟨"", "column"⟩, rfl, .inr (.inl rfl)⟩

end ModelKind

end MetaGraph

/-
The attributes that models give to what they emit: those of nodes have names
from a fixed list, none of which depends on a record, and relations have
none.
-/
import MetaGraph.Proofs.Run.Claimed

namespace MetaGraph

/-- The names of the attributes of nodes. -/
def attributeNames : List String :=
  ["category", "create_time", "created_timestamp", "dashboard_group_url", "dashboard_url", "description",
    "end_epoch", "expression", "id", "name", "partition_key", "partition_value", "query_text",
    "start_epoch", "stat_name", "stat_val:UNQUOTED", "state", "tag_type", "time_stamp", "timestamp", "url"]

/-- All attributes of a node are named in the list. -/
def Node.Named (n : Node) : Prop := ∀ a ∈ n.attributes, a.1 ∈ attributeNames

namespace Node

variable {n : Node} {name : String}

theorem named_bare (key label : String) : ({ key, label } : Node).Named := nofun

theorem Named.withAttribute (h : n.Named) (hn : name ∈ attributeNames) (value : Json) :
    (n.withAttribute name value).Named := by
  intro a ha
  rcases KeyMap.mem_insert ha with rfl | ha
  · exact hn
  · exact h a ha

theorem Named.withText (h : n.Named) (hn : name ∈ attributeNames) (value : String) :
    (n.withText name value).Named :=
  h.withAttribute hn _

theorem Named.withOptional (h : n.Named) (hn : name ∈ attributeNames) (value : Option Json) :
    (n.withOptional name value).Named := by
  cases value with
  | none => exact h
  | some v => exact h.withAttribute hn v

end Node

namespace Subject

open Node

theorem named_descriptionNode (key text : String) : (Dashboard.descriptionNode key text).Named :=
  (named_bare _ _).withText (by decide) _

theorem named_tagNode (use tag : String) : (Dashboard.tagNode use tag).Named :=
  (named_bare _ _).withText (by decide) _

theorem named_of_mem_shared {s : Subject} {n : Node} (h : n ∈ s.shared) : n.Named := by
  cases s with
  | dashboard d =>
    simp only [shared, List.mem_append, List.mem_singleton] at h
    rcases h with rfl | h
    · exact (named_bare _ _).withText (by decide) _
    · split at h
      · cases h
      · rw [List.mem_singleton.1 h]
        exact ((named_bare _ _).withText (by decide) _).withOptional (by decide) _
  | metric m =>
    simp only [shared, List.mem_append, List.mem_map, Option.mem_toList, Option.map_eq_some_iff] at h
    rcases h with ⟨tag, -, rfl⟩ | ⟨type, -, rfl⟩
    · exact named_tagNode _ _
    · exact (named_bare _ _).withText (by decide) _
  | _ => cases h

theorem named_of_mem_unshared {s : Subject} {n : Node} (h : n ∈ s.unshared) : n.Named := by
  cases s with
  | badge s =>
    obtain ⟨b, -, rfl⟩ := List.mem_map.1 h
    exact (named_bare _ _).withText (by decide) _
  | watermark w =>
    rw [List.mem_singleton.1 h]
    exact (((named_bare _ _).withText (by decide) _).withText (by decide) _).withText (by decide) _
  | columnStat s =>
    rw [List.mem_singleton.1 h]
    exact ((((named_bare _ _).withAttribute (by decide +kernel) _).withText (by decide) _).withText
      (by decide) _).withText (by decide) _
  | dashboard d =>
    simp only [unshared, List.mem_append, List.mem_singleton, List.mem_map, Option.mem_toList,
      Option.map_eq_some_iff] at h
    rcases h with ((rfl | ⟨text, -, rfl⟩) | ⟨text, -, rfl⟩) | ⟨tag, -, rfl⟩
    · exact (((named_bare _ _).withText (by decide) _).withOptional (by decide) _).withOptional (by decide) _
    · exact named_descriptionNode _ _
    · exact named_descriptionNode _ _
    · exact named_tagNode _ _
  | lastExecution e =>
    rw [List.mem_singleton.1 h]
    exact ((named_bare _ _).withAttribute (by decide) _).withText (by decide) _
  | lastModified m =>
    rw [List.mem_singleton.1 h]
    exact ((named_bare _ _).withAttribute (by decide) _).withText (by decide) _
  | dashboardQuery q =>
    rw [List.mem_singleton.1 h]
    exact ((((named_bare _ _).withText (by decide) _).withText (by decide) _).withOptional
      (by decide) _).withOptional (by decide) _
  | dashboardTable t => cases h
  | execution e =>
    rw [List.mem_singleton.1 h]
    exact ((named_bare _ _).withAttribute (by decide) _).withText (by decide) _
  | metric m =>
    simp only [unshared, List.mem_append, List.mem_singleton, Option.mem_toList,
      Option.map_eq_some_iff] at h
    rcases h with rfl | ⟨text, -, rfl⟩
    · exact ((named_bare _ _).withText (by decide) _).withText (by decide) _
    · exact named_descriptionNode _ _

theorem attributes_of_mem_relations {s : Subject} {c : Claims} {r : Relation}
    (h : r ∈ (s.elements c).1.relations) : r.attributes = [] := by
  cases s with
  | badge s =>
    obtain ⟨b, -, rfl⟩ := List.mem_map.1 h
    rfl
  | dashboard d =>
    change r ∈ d.relations at h
    simp only [Dashboard.relations, List.mem_append, List.mem_singleton, List.mem_map, Option.mem_toList,
      Option.map_eq_some_iff] at h
    rcases h with (((rfl | ⟨text, -, rfl⟩) | rfl) | ⟨text, -, rfl⟩) | ⟨tag, -, rfl⟩ <;> rfl
  | dashboardTable t =>
    obtain ⟨address, -, rfl⟩ := List.mem_map.1 h
    rfl
  | metric m =>
    have h : r ∈ m.relations := (c.claimRelations_sublist m.relations).subset h
    simp only [Metric.relations, List.mem_append, List.mem_singleton, List.mem_map, Option.mem_toList,
      Option.map_eq_some_iff] at h
    rcases h with ((rfl | ⟨text, -, rfl⟩) | ⟨tag, -, rfl⟩) | ⟨type, -, rfl⟩ <;> rfl
  | watermark | columnStat | lastExecution | lastModified | dashboardQuery | execution =>
    rw [List.mem_singleton.1 h]
    rfl

end Subject

/-- **The attributes of what a model emits**: those of nodes are named in the list, and relations
have none. -/
theorem ModelKind.attributes_of_build {kind : ModelKind} {record : Record} {c c' : Claims} {m : Model}
    (h : kind.build record c = .ok (m, c')) :
    (∀ n ∈ m.elements.nodes, n.Named) ∧ ∀ r ∈ m.elements.relations, r.attributes = [] := by
  refine ⟨fun n hn => ?_, fun r hr => ?_⟩
  · rcases List.mem_append.1 ((build_nodes h).1.mem_iff.1 hn) with hn | hn
    · exact Subject.named_of_mem_shared (List.mem_of_find?_eq_some (Claims.mem_claimNodes_iff.1 hn).2)
    · exact Subject.named_of_mem_unshared hn
  · obtain ⟨s, -, rfl, -⟩ := build_eq_ok h
    exact Subject.attributes_of_mem_relations hr

end MetaGraph

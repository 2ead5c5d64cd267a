/-
What a run emits of the nodes that its models share. Models are built one
after the other and claim their shared nodes as they are built; over a whole
run this comes to a single series of claims, in which of the nodes with one
key the first is emitted, whatever their labels.
-/
import MetaGraph.Model.Basic
import MetaGraph.Proofs.Graph.Validity

namespace MetaGraph

/-! ## Claims in a row -/

namespace Claims

theorem claimNodes_append (c : Claims) (first second : List Node) :
    c.claimNodes (first ++ second) =
      ((c.claimNodes first).1 ++ ((c.claimNodes first).2.claimNodes second).1,
        ((c.claimNodes first).2.claimNodes second).2) := by
  induction first generalizing c with
  | nil => rfl
  | cons n rest ih =>
    simp only [List.cons_append, claimNodes, ih]
    split <;> rfl

theorem claimNodes_cons_of_contains {c : Claims} {n : Node} (h : c.contains n.key = true)
    (ns : List Node) : c.claimNodes (n :: ns) = c.claimNodes ns := by
  simp [claimNodes, claim, h]

theorem claimNodes_cons_of_new {c : Claims} {n : Node} (h : c.contains n.key = false)
    (ns : List Node) :
    c.claimNodes (n :: ns) =
      (n :: ((c.claim n.key).2.claimNodes ns).1, ((c.claim n.key).2.claimNodes ns).2) := by
  simp [claimNodes, claim, h]

/-- Which nodes are claimed depends on the claimed nodes only. -/
theorem claimNodes_congr {c d : Claims} (h : c.nodes = d.nodes) (ns : List Node) :
    (c.claimNodes ns).1 = (d.claimNodes ns).1 ∧ (c.claimNodes ns).2.nodes = (d.claimNodes ns).2.nodes := by
  induction ns generalizing c d with
  | nil => exact ⟨rfl, h⟩
  | cons n rest ih =>
    have hc : c.contains n.key = d.contains n.key := by rw [contains, contains, h]
    cases hd : d.contains n.key with
    | true =>
      rw [claimNodes_cons_of_contains (hc.trans hd), claimNodes_cons_of_contains hd]
      exact ih h
    | false =>
      rw [claimNodes_cons_of_new (hc.trans hd), claimNodes_cons_of_new hd]
      have hn : (c.claim n.key).2.nodes = (d.claim n.key).2.nodes := by
        simp [claim, hc.trans hd, hd, h]
      exact ⟨by rw [(ih hn).1], (ih hn).2⟩

@[simp] theorem claimRelation_nodes (c : Claims) (r : Relation) :
    (c.claimRelation r).2.nodes = c.nodes := by
  unfold claimRelation
  split <;> rfl

@[simp] theorem claimRelations_nodes (c : Claims) (rs : List Relation) :
    (c.claimRelations rs).2.nodes = c.nodes := by
  induction rs generalizing c with
  | nil => rfl
  | cons r rest ih =>
    rw [claimRelations]
    exact (ih _).trans (claimRelation_nodes c r)

theorem claimRelations_sublist (c : Claims) (rs : List Relation) :
    (c.claimRelations rs).1.Sublist rs := by
  induction rs generalizing c with
  | nil => exact .slnil
  | cons r rest ih =>
    rw [claimRelations]
    simp only
    split
    · exact (ih _).cons_cons r
    · exact (ih _).cons r

/-- Of the nodes with one key the first is claimed, if the key was not claimed before. -/
theorem mem_claimNodes_iff {c : Claims} {ns : List Node} {n : Node} :
    n ∈ (c.claimNodes ns).1 ↔
      c.contains n.key = false ∧ ns.find? (fun other => other.key == n.key) = some n := by
  induction ns generalizing c with
  | nil => simp [claimNodes]
  | cons other rest ih =>
    by_cases hk : other.key = n.key
    · have found : (other :: rest).find? (fun other => other.key == n.key) = some other := by
        simp [hk]
      rw [found]
      cases hc : c.contains other.key with
      | true =>
        rw [claimNodes_cons_of_contains hc, ih, ← hk, hc]
        simp
      | false =>
        rw [claimNodes_cons_of_new hc, List.mem_cons, ih, contains_claim, ← hk, hc]
        simp [eq_comm]
    · have passed : (other :: rest).find? (fun other => other.key == n.key) =
          rest.find? (fun other => other.key == n.key) := by simp [hk]
      have hne : n ≠ other := fun h => hk (by rw [h])
      rw [passed]
      cases hc : c.contains other.key with
      | true => rw [claimNodes_cons_of_contains hc, ih]
      | false =>
        have hb : (n.key == other.key) = false := by simpa using Ne.symm hk
        rw [claimNodes_cons_of_new hc, List.mem_cons, ih, contains_claim, hb]
        simp [hne]

end Claims

/-! ## The claims of a model -/

/-- The labels of the nodes that models of a kind claim. -/
def ModelKind.guardedLabels : ModelKind → List String
  | dashboard => ["Cluster", "Dashboardgroup"]
  | metric => ["Tag", "Metrictype"]
  | _ => []

namespace Subject

/-- The nodes that a subject shares with others, and claims. -/
def shared : Subject → List Node
  | dashboard d => [d.clusterNode] ++ if d.group = "" then [] else [d.groupNode]
  | metric m => m.tags.map (Dashboard.tagNode "metric") ++ (m.type?.map Metric.typeNode).toList
  | _ => []

theorem label_mem_guardedLabels {s : Subject} {n : Node} (h : n ∈ s.shared) :
    n.label ∈ s.kind.guardedLabels := by
  cases s with
  | dashboard d =>
    simp only [shared, List.mem_append, List.mem_singleton] at h
    rcases h with rfl | h
    · exact List.mem_cons_self
    · split at h
      · cases h
      · rw [List.mem_singleton.1 h]
        simp [Dashboard.groupNode, kind, ModelKind.guardedLabels]
  | metric m =>
    simp only [shared, List.mem_append, List.mem_map, Option.mem_toList, Option.map_eq_some_iff] at h
    rcases h with ⟨tag, _, rfl⟩ | ⟨type, _, rfl⟩
    · exact List.mem_cons_self
    · exact List.mem_cons_of_mem _ List.mem_cons_self
  | _ => cases h

/-- The nodes that a subject emits without a claim. -/
def unshared : Subject → List Node
  | badge s => s.elements.nodes
  | watermark w => w.elements.nodes
  | columnStat s => s.elements.nodes
  | dashboard d =>
    [d.node] ++ (d.groupDescription.map (Dashboard.descriptionNode (descriptionKey d.groupKey))).toList
      ++ (d.description.map (Dashboard.descriptionNode (descriptionKey d.key))).toList
      ++ d.tags.map (Dashboard.tagNode "dashboard")
  | lastExecution e => e.elements.nodes
  | lastModified m => m.elements.nodes
  | dashboardQuery q => q.elements.nodes
  | dashboardTable t => t.elements.nodes
  | execution e => e.elements.nodes
  | metric m =>
    [m.node] ++ (m.description.map (Dashboard.descriptionNode (descriptionKey m.key))).toList

end Subject

/-- The nodes of a dashboard are those of its cluster and group that it claims, and its own. -/
theorem Dashboard.nodes_perm (d : Dashboard) (c : Claims) :
    (d.nodes c).1.Perm ((c.claimNodes (Subject.dashboard d).shared).1 ++ (Subject.dashboard d).unshared) ∧
      (d.nodes c).2 = (c.claimNodes (Subject.dashboard d).shared).2 := by
  refine ⟨?_, by rw [Subject.shared, Claims.claimNodes_append]; rfl⟩
  rw [Subject.shared, Subject.unshared, Claims.claimNodes_append, List.perm_iff_count]
  intro n
  simp only [Dashboard.nodes, List.count_append]
  omega

theorem Metric.nodes_perm (m : Metric) (c : Claims) :
    (m.nodes c).1.Perm ((c.claimNodes (Subject.metric m).shared).1 ++ (Subject.metric m).unshared) ∧
      (m.nodes c).2 = (c.claimNodes (Subject.metric m).shared).2 := by
  refine ⟨?_, by rw [Subject.shared, Claims.claimNodes_append]; rfl⟩
  rw [Subject.shared, Subject.unshared, Claims.claimNodes_append, List.perm_iff_count]
  intro n
  simp only [Metric.nodes, List.count_append]
  omega

/-- What a subject still has to hand out, and the claims after it. -/
def Subject.elements : Subject → Claims → Cursor × Claims
  | badge s, c => (s.elements, c)
  | watermark w, c => (w.elements, c)
  | columnStat s, c => (s.elements, c)
  | dashboard d, c => d.elements c
  | lastExecution e, c => (e.elements, c)
  | lastModified m, c => (m.elements, c)
  | dashboardQuery q, c => (q.elements, c)
  | dashboardTable t, c => (t.elements, c)
  | execution e, c => (e.elements, c)
  | metric m, c => m.elements c

namespace ModelKind

/-- What a record of a kind is about. -/
def subject (kind : ModelKind) (record : Record) : Except ModelError Subject := do
  match kind with
  | badge => pure (.badge (← Field.ofRecord kind.name BadgeSet.shape record))
  | watermark =>
    pure (.watermark (← Watermark.ofFields (← Field.ofRecord kind.name WatermarkFields.shape record)))
  | columnStat =>
    pure (.columnStat (← ColumnStat.ofFields (← Field.ofRecord kind.name ColumnStatFields.shape record)))
  | dashboard => pure (.dashboard (← Field.ofRecord kind.name Dashboard.shape record))
  | lastExecution => pure (.lastExecution (← Field.ofRecord kind.name LastExecution.shape record))
  | lastModified => pure (.lastModified (← Field.ofRecord kind.name LastModified.shape record))
  | dashboardQuery => pure (.dashboardQuery (← Field.ofRecord kind.name DashboardQuery.shape record))
  | dashboardTable => pure (.dashboardTable (← Field.ofRecord kind.name DashboardTable.shape record))
  | execution => pure (.execution (← Field.ofRecord kind.name Execution.shape record))
  | metric => pure (.metric (← Field.ofRecord kind.name Metric.shape record))

/-- Whether a record is bound, and to what, does not depend on the claims; they only decide which
elements the model has. -/
theorem build_eq (kind : ModelKind) (record : Record) (c : Claims) :
    kind.build record c =
      (kind.subject record).map fun s => (⟨s, (s.elements c).1⟩, (s.elements c).2) := by
  unfold build subject
  simp only [bind, Except.bind, pure, Except.pure]
  cases kind <;> simp only <;> repeat' split
  all_goals rfl

theorem subject_kind {kind : ModelKind} {record : Record} {s : Subject}
    (h : kind.subject record = .ok s) : s.kind = kind := by
  unfold subject at h
  simp only [bind, Except.bind, pure, Except.pure] at h
  cases kind <;> simp only at h <;> repeat' split at h
  all_goals cases h
  all_goals rfl

/-- A record that is bound makes a model of what it is about. -/
theorem build_eq_ok {kind : ModelKind} {record : Record} {c c' : Claims} {m : Model}
    (h : kind.build record c = .ok (m, c')) :
    ∃ s, kind.subject record = .ok s ∧ m = ⟨s, (s.elements c).1⟩ ∧ c' = (s.elements c).2 := by
  rw [build_eq] at h
  cases hs : kind.subject record with
  | error e =>
    rw [hs] at h
    cases h
  | ok s =>
    rw [hs] at h
    cases h
    exact ⟨s, rfl, rfl, rfl⟩

/-- A model emits the shared nodes that it claims as it is built, and all others. -/
theorem build_nodes {kind : ModelKind} {record : Record} {c c' : Claims} {m : Model}
    (h : kind.build record c = .ok (m, c')) :
    m.elements.nodes.Perm ((c.claimNodes m.subject.shared).1 ++ m.subject.unshared) ∧
      c'.nodes = (c.claimNodes m.subject.shared).2.nodes := by
  obtain ⟨s, -, rfl, rfl⟩ := build_eq_ok h
  cases s with
  | dashboard d => exact ⟨(d.nodes_perm c).1, congrArg Claims.nodes (d.nodes_perm c).2⟩
  | metric m =>
    -- The relations are claimed before the nodes, which takes nothing from the nodes.
    have same := Claims.claimNodes_congr (c.claimRelations_nodes m.relations) (Subject.metric m).shared
    have perm := m.nodes_perm (c.claimRelations m.relations).2
    rw [same.1] at perm
    exact ⟨perm.1, (congrArg Claims.nodes perm.2).trans same.2⟩
  | _ => exact ⟨.refl _, rfl⟩

/-- The models of a run: the records in order, each bound with the claims of those before it.
A record that cannot be bound leaves no model. -/
def buildAll : List (ModelKind × Record) → Claims → List Model × Claims
  | [], c => ([], c)
  | (kind, record) :: rest, c =>
    match kind.build record c with
    | .ok (m, c) =>
      let (ms, c) := buildAll rest c
      (m :: ms, c)
    | .error _ => buildAll rest c

/-- **A run is a single series of claims**: the shared nodes that its models emit are those
that are claimed when all models ask for theirs in order. -/
theorem buildAll_nodes (records : List (ModelKind × Record)) (c : Claims) :
    ((buildAll records c).1.flatMap (·.elements.nodes)).Perm
      ((c.claimNodes ((buildAll records c).1.flatMap (·.subject.shared))).1 ++
        (buildAll records c).1.flatMap (·.subject.unshared)) := by
  induction records generalizing c with
  | nil => exact .refl _
  | cons entry rest ih =>
    obtain ⟨kind, record⟩ := entry
    rw [buildAll]
    split
    · rename_i m c' h
      obtain ⟨perm, nodes⟩ := build_nodes h
      have later := ih c'
      have same := Claims.claimNodes_congr nodes ((buildAll rest c').1.flatMap (·.subject.shared))
      rw [same.1] at later
      simp only [List.flatMap_cons, Claims.claimNodes_append]
      rw [List.perm_iff_count] at *
      intro n
      have := perm n
      have := later n
      simp only [List.count_append] at *
      omega
    · exact ih c

theorem mem_buildAll {records : List (ModelKind × Record)} {c : Claims} {m : Model}
    (h : m ∈ (buildAll records c).1) :
    ∃ kind record before after, (kind, record) ∈ records ∧ build kind record before = .ok (m, after) := by
  induction records generalizing c with
  | nil => cases h
  | cons entry rest ih =>
    obtain ⟨kind, record⟩ := entry
    rw [buildAll] at h
    split at h
    · rename_i m' c' hb
      rcases List.mem_cons.1 h with rfl | h
      · exact ⟨kind, record, c, c', List.mem_cons_self, hb⟩
      · obtain ⟨kind, record, before, after, hm, hb⟩ := ih h
        exact ⟨kind, record, before, after, List.mem_cons_of_mem _ hm, hb⟩
    · obtain ⟨kind, record, before, after, hm, hb⟩ := ih h
      exact ⟨kind, record, before, after, List.mem_cons_of_mem _ hm, hb⟩

end ModelKind

end MetaGraph

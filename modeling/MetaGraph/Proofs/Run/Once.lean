/-
Shared elements are emitted once in a run. Records are bound one after the
other, with the claims of those before them. Of the records that ask for the
key of a shared node the first emits the node, and of the metrics that ask for
a relation the first emits the relation. What is emitted in all depends on the
records alone and not on their order.
-/
import MetaGraph.Component.RunState
import MetaGraph.Proofs.Decode.Fields
import MetaGraph.Proofs.Graph.Validity
import MetaGraph.Proofs.Run.Claimed

namespace MetaGraph

/-! ## The first of each key -/

namespace Claims

section Firsts

variable {α : Type} {key : α → String}

/-- The elements whose keys are new, each key once, and all keys after them. -/
def firsts (key : α → String) : List String → List α → List α × List String
  | seen, [] => ([], seen)
  | seen, x :: xs =>
    if key x ∈ seen then firsts key seen xs
    else
      let (kept, seen) := firsts key (key x :: seen) xs
      (x :: kept, seen)

theorem mem_seen_firsts {seen : List String} {xs : List α} {k : String} :
    k ∈ (firsts key seen xs).2 ↔ k ∈ seen ∨ k ∈ xs.map key := by
  induction xs generalizing seen with
  | nil => simp [firsts]
  | cons x xs ih =>
    rw [firsts, List.map_cons, List.mem_cons]
    split
    · rename_i old
      rw [ih]
      refine ⟨Or.imp_right .inr, ?_⟩
      rintro (h | rfl | h)
      · exact .inl h
      · exact .inl old
      · exact .inr h
    · rw [ih, List.mem_cons, or_assoc, or_left_comm]

theorem count_firsts (seen : List String) (xs : List α) (k : String) :
    ((firsts key seen xs).1.map key).count k = if k ∈ xs.map key ∧ k ∉ seen then 1 else 0 := by
  induction xs generalizing seen with
  | nil => rfl
  | cons x xs ih =>
    rw [firsts]
    split
    · rename_i old
      rw [ih]
      -- The key of `x` is among the old ones, so `x` adds nothing to the new ones.
      have same : k ∈ (x :: xs).map key ∧ k ∉ seen ↔ k ∈ xs.map key ∧ k ∉ seen := by
        refine and_congr_left fun new => ?_
        have : k ≠ key x := fun h => new (h ▸ old)
        simp [this]
      simp only [same]
    · rename_i new
      rw [List.map_cons, List.count_cons, ih]
      by_cases hk : key x = k
      · subst hk
        simp [new]
      · simp [hk, Ne.symm hk]

theorem firsts_sublist (seen : List String) (xs : List α) : (firsts key seen xs).1.Sublist xs := by
  induction xs generalizing seen with
  | nil => exact .slnil
  | cons x xs ih =>
    rw [firsts]
    split
    · exact (ih seen).cons x
    · exact (ih _).cons_cons x

end Firsts

theorem claimNodes_eq_firsts (c : Claims) (ns : List Node) :
    c.claimNodes ns = ((firsts Node.key c.nodes ns).1, { c with nodes := (firsts Node.key c.nodes ns).2 }) := by
  induction ns generalizing c with
  | nil => rfl
  | cons n ns ih =>
    rw [firsts]
    split
    · rename_i old
      rw [claimNodes_cons_of_contains (List.contains_iff_mem.2 old), ih]
    · rename_i new
      have new : c.contains n.key = false := by simpa [contains] using new
      rw [claimNodes_cons_of_new new, ih]
      simp [claim, new]

theorem claimRelations_eq_firsts (c : Claims) (rs : List Relation) :
    c.claimRelations rs = ((firsts Relation.identity c.relations rs).1,
      { c with relations := (firsts Relation.identity c.relations rs).2 }) := by
  induction rs generalizing c with
  | nil => rfl
  | cons r rs ih =>
    rw [firsts, claimRelations, claimRelation]
    by_cases old : r.identity ∈ c.relations
    · simp [containsRelation, old, ih]
    · simp [containsRelation, old, ih]

end Claims

/-! ## What a record asks for -/

namespace Subject

/-- The keys of the shared nodes that a subject asks for: of its cluster and, if that has a name,
its group, or of its tags and its type. -/
def requestedKeys : Subject → List String
  | dashboard d => d.clusterKey :: if d.group = "" then [] else [d.groupKey]
  | metric m => m.tags ++ (m.type?.map metricTypeKey).toList
  | _ => []

/-- The identities of the relations that a metric asks for. -/
def requestedRelations : Subject → List String
  | metric m => m.relations.map Relation.identity
  | _ => []

theorem map_key_shared (s : Subject) : s.shared.map Node.key = s.requestedKeys := by
  cases s with
  | dashboard d =>
    rw [shared, requestedKeys]
    split <;> simp [Dashboard.clusterNode, Dashboard.groupNode]
  | metric m =>
    simp only [shared, requestedKeys, List.map_append, List.map_map]
    congr 1
    · exact List.map_id m.tags
    · cases m.type? <;> rfl
  | _ => rfl

/-- Of its own accord a subject emits no node with a label that its kind claims. -/
theorem label_notMem_guardedLabels {s : Subject} {n : Node} (h : n ∈ s.unshared) :
    n.label ∉ s.kind.guardedLabels := by
  cases s with
  | dashboard d =>
    simp only [unshared, List.mem_append, List.mem_singleton, List.mem_map, Option.mem_toList,
      Option.map_eq_some_iff] at h
    rcases h with ((rfl | ⟨text, _, rfl⟩) | ⟨text, _, rfl⟩) | ⟨tag, _, rfl⟩ <;>
      simp [kind, ModelKind.guardedLabels, Dashboard.node, Dashboard.descriptionNode, Dashboard.tagNode]
  | metric m =>
    simp only [unshared, List.mem_append, List.mem_singleton, Option.mem_toList,
      Option.map_eq_some_iff] at h
    rcases h with rfl | ⟨text, _, rfl⟩ <;>
      simp [kind, ModelKind.guardedLabels, Metric.node, Dashboard.descriptionNode]
  | _ => exact List.not_mem_nil

end Subject

namespace Model

/-- The nodes that a model emits under a claim: a dashboard its cluster and group, a metric its
tags and type. -/
def guardedNodes (m : Model) : List Node :=
  m.elements.nodes.filter fun n => n.label ∈ m.kind.guardedLabels

/-- The relations that a model emits under a claim: those of a metric. -/
def guardedRelations (m : Model) : List Relation :=
  if m.kind = .metric then m.elements.relations else []

end Model

/-! ## One record -/

/-- Of the keys that are asked for those are given, each once, that were not seen before, and
then they are seen. -/
structure FirstAsked (asked given seen seen' : List String) : Prop where
  count_given (k : String) : given.count k = if k ∈ asked ∧ k ∉ seen then 1 else 0
  mem_seen (k : String) : k ∈ seen' ↔ k ∈ asked ∨ k ∈ seen

theorem FirstAsked.firsts {α : Type} (key : α → String) (seen : List String) (xs : List α) :
    FirstAsked (xs.map key) ((Claims.firsts key seen xs).1.map key) seen (Claims.firsts key seen xs).2 where
  count_given := Claims.count_firsts seen xs
  mem_seen _ := Claims.mem_seen_firsts.trans or_comm

theorem FirstAsked.none (seen : List String) : FirstAsked [] [] seen seen where
  count_given k := by simp
  mem_seen k := by simp

namespace ModelKind

variable {kind : ModelKind} {record : Record} {c c' : Claims} {m : Model}

/-- Of all nodes of a model the guarded ones are those that it claims. -/
theorem guardedNodes_perm (h : kind.build record c = .ok (m, c')) :
    m.guardedNodes.Perm (Claims.firsts Node.key c.nodes m.subject.shared).1 := by
  have perm := (build_nodes h).1
  rw [Claims.claimNodes_eq_firsts] at perm
  refine (perm.filter _).trans (.of_eq ?_)
  rw [List.filter_append, List.filter_eq_self.2, List.filter_eq_nil_iff.2, List.append_nil]
  · intro n hn guarded
    exact Subject.label_notMem_guardedLabels hn (of_decide_eq_true guarded)
  · intro n hn
    exact decide_eq_true (Subject.label_mem_guardedLabels ((Claims.firsts_sublist _ _).subset hn))

theorem build_guardedNodes (h : kind.build record c = .ok (m, c')) :
    FirstAsked m.subject.requestedKeys (m.guardedNodes.map Node.key) c.nodes c'.nodes := by
  have after := (build_nodes h).2
  rw [Claims.claimNodes_eq_firsts] at after
  have first := FirstAsked.firsts Node.key c.nodes m.subject.shared
  rw [Subject.map_key_shared] at first
  exact ⟨fun k => (((guardedNodes_perm h).map Node.key).count_eq k).trans (first.count_given k),
    fun k => after ▸ first.mem_seen k⟩

theorem build_guardedRelations (h : kind.build record c = .ok (m, c')) :
    FirstAsked m.subject.requestedRelations (m.guardedRelations.map Relation.identity) c.relations
      c'.relations := by
  obtain ⟨s, -, rfl, rfl⟩ := build_eq_ok h
  cases s with
  | metric m =>
    have first := FirstAsked.firsts Relation.identity c.relations m.relations
    simp only [Subject.elements, Metric.elements, Metric.nodes, Claims.claimRelations_eq_firsts,
      Claims.claimNodes_eq_firsts, Model.guardedRelations, Model.kind, Subject.kind, if_pos]
    exact first
  | dashboard d =>
    simp only [Subject.elements, Dashboard.elements, Dashboard.nodes, Claims.claimNodes_eq_firsts]
    exact .none _
  | _ => exact .none _

end ModelKind

/-! ## Runs -/

/-- What becomes of records that are bound one after the other. -/
def RunState.bindAll {ν : Type} (s : RunState ν) :
    List (ModelKind × Record) → List (Except ModelError Payload) × RunState ν
  | [] => ([], s)
  | (kind, record) :: rest =>
    let (outcome, s) := s.bind (some kind) record
    let (outcomes, s) := RunState.bindAll s rest
    (outcome :: outcomes, s)

theorem RunState.bindAll_cons {ν : Type} (s : RunState ν) (kind : ModelKind) (record : Record)
    (rest : List (ModelKind × Record)) :
    s.bindAll ((kind, record) :: rest) =
      ((s.bind (some kind) record).1 :: ((s.bind (some kind) record).2.bindAll rest).1,
        ((s.bind (some kind) record).2.bindAll rest).2) := rfl

namespace Run

/-- The model of a record, if it was bound. -/
def model? : Except ModelError Payload → Option Model
  | .ok (.model m) => some m
  | _ => none

/-- The keys of shared nodes that a record asks for; none if it is not bound. -/
def requestedKeys (outcome : Except ModelError Payload) : List String :=
  (model? outcome).elim [] (·.subject.requestedKeys)

/-- The identities of the relations that a metric's record asks for. -/
def requestedRelations (outcome : Except ModelError Payload) : List String :=
  (model? outcome).elim [] (·.subject.requestedRelations)

/-- The nodes that are emitted for a record under a claim. -/
def guardedNodes (outcome : Except ModelError Payload) : List Node :=
  (model? outcome).elim [] (·.guardedNodes)

/-- The relations that are emitted for a metric's record. -/
def guardedRelations (outcome : Except ModelError Payload) : List Relation :=
  (model? outcome).elim [] (·.guardedRelations)

/-- Each record on its own is given, once, what it asks for and nobody claimed before. -/
def GivesFirst (ν : Type) (asked given : Except ModelError Payload → List String)
    (seen : Claims → List String) : Prop :=
  ∀ (s : RunState ν) (kind : ModelKind) (record : Record),
    FirstAsked (asked (s.bind (some kind) record).1) (given (s.bind (some kind) record).1)
      (seen s.claims) (seen (s.bind (some kind) record).2.claims)

section Bind

variable {ν : Type} (s : RunState ν) (kind : ModelKind) (record : Record)

/-- Whether a record is bound, and to what, depends on the record alone. -/
theorem subject_bind {α : Type} (none : α) (f : Subject → α) :
    (model? (s.bind (some kind) record).1).elim none (f ·.subject) =
      (kind.subject record).toOption.elim none f := by
  unfold RunState.bind
  simp only [ModelKind.build_eq]
  cases kind.subject record <;> rfl

/-- A record that is not bound claims nothing, and changes nothing else. -/
theorem bind_of_error {e : ModelError} (h : (s.bind (some kind) record).1 = .error e) :
    (s.bind (some kind) record).2 = s := by
  unfold RunState.bind at h ⊢
  dsimp only at h ⊢
  split at h
  · cases h
  · rfl

theorem givesFirst_guardedNodes :
    GivesFirst ν requestedKeys (fun o => (guardedNodes o).map Node.key) Claims.nodes := by
  intro s kind record
  unfold RunState.bind
  dsimp only
  split
  · rename_i h
    exact ModelKind.build_guardedNodes h
  · exact .none _

theorem givesFirst_guardedRelations :
    GivesFirst ν requestedRelations (fun o => (guardedRelations o).map Relation.identity)
      Claims.relations := by
  intro s kind record
  unfold RunState.bind
  dsimp only
  split
  · rename_i h
    exact ModelKind.build_guardedRelations h
  · exact .none _

end Bind

section Runs

variable {ν : Type} {asked given : Except ModelError Payload → List String} {seen : Claims → List String}

/-- Each record of a run gives, once, what it is the first to ask for, if each record on its own
gives what was not claimed before. -/
theorem count_given_bindAll (step : GivesFirst ν asked given seen)
    {records : List (ModelKind × Record)} {s : RunState ν} {before after : List (Except ModelError Payload)}
    {outcome : Except ModelError Payload} (h : (s.bindAll records).1 = before ++ outcome :: after) (k : String) :
    (given outcome).count k =
      if k ∈ asked outcome ∧ k ∉ seen s.claims ∧ ∀ b ∈ before, k ∉ asked b then 1 else 0 := by
  induction records generalizing s before with
  | nil => simp [RunState.bindAll] at h
  | cons entry rest ih =>
    obtain ⟨kind, record⟩ := entry
    have one := step s kind record
    rw [RunState.bindAll_cons] at h
    cases before with
    | nil =>
      obtain ⟨rfl, -⟩ := List.cons.inj h
      simpa using one.count_given k
    | cons first before =>
      obtain ⟨rfl, later⟩ := List.cons.inj h
      simp only [ih later, one.mem_seen, not_or, List.forall_mem_cons, and_assoc, and_left_comm]

theorem mem_seen_bindAll (step : GivesFirst ν asked given seen)
    (records : List (ModelKind × Record)) (s : RunState ν) (k : String) :
    k ∈ seen (s.bindAll records).2.claims ↔ k ∈ (s.bindAll records).1.flatMap asked ∨ k ∈ seen s.claims := by
  induction records generalizing s with
  | nil => simp [RunState.bindAll]
  | cons entry rest ih =>
    obtain ⟨kind, record⟩ := entry
    rw [RunState.bindAll_cons, ih, (step s kind record).mem_seen, List.flatMap_cons, List.mem_append,
      or_assoc, or_left_comm]

theorem count_flatMap_given_bindAll (step : GivesFirst ν asked given seen)
    (records : List (ModelKind × Record)) (s : RunState ν) (k : String) :
    ((s.bindAll records).1.flatMap given).count k =
      if k ∈ (s.bindAll records).1.flatMap asked ∧ k ∉ seen s.claims then 1 else 0 := by
  induction records generalizing s with
  | nil => simp [RunState.bindAll]
  | cons entry rest ih =>
    obtain ⟨kind, record⟩ := entry
    have one := step s kind record
    simp only [RunState.bindAll_cons, List.flatMap_cons, List.count_append, List.mem_append,
      one.count_given, ih, one.mem_seen, not_or]
    by_cases now : k ∈ asked (s.bind (some kind) record).1 <;> simp [now]

/-- What is asked for in a run is given by the first record that asks for it, and by no other. -/
theorem first_given_bindAll (step : GivesFirst ν asked given seen)
    {records : List (ModelKind × Record)} {s : RunState ν} (fresh : seen s.claims = []) {k : String}
    (h : k ∈ (s.bindAll records).1.flatMap asked) :
    ∃ before outcome after, (s.bindAll records).1 = before ++ outcome :: after ∧
      k ∈ asked outcome ∧ (∀ earlier ∈ before, k ∉ asked earlier) ∧ (given outcome).count k = 1 ∧
      ∀ other ∈ before ++ after, k ∉ given other := by
  obtain ⟨asker, ha, hk⟩ := List.mem_flatMap.1 h
  have some : ((s.bindAll records).1.find? fun o => decide (k ∈ asked o)).isSome :=
    List.find?_isSome.2 ⟨asker, ha, decide_eq_true hk⟩
  obtain ⟨outcome, found⟩ := Option.isSome_iff_exists.1 some
  obtain ⟨asks, before, after, split, notBefore⟩ := List.find?_eq_some_iff_append.1 found
  have asks : k ∈ asked outcome := of_decide_eq_true asks
  have notBefore : ∀ earlier ∈ before, k ∉ asked earlier := by simpa using notBefore
  have one : (given outcome).count k = 1 := by
    rw [count_given_bindAll step split, if_pos ⟨asks, by simp [fresh], notBefore⟩]
  refine ⟨before, outcome, after, split, asks, notBefore, one, fun other ho => ?_⟩
  -- In the whole run the key is given once, and that is by this record.
  have all := count_flatMap_given_bindAll step records s k
  rw [if_pos ⟨h, by simp [fresh]⟩, split, List.flatMap_append, List.flatMap_cons, List.count_append,
    List.count_append, one] at all
  intro given
  rcases List.mem_append.1 ho with ho | ho
  · have := List.count_pos_iff.2 (List.mem_flatMap.2 ⟨other, ho, given⟩)
    omega
  · have := List.count_pos_iff.2 (List.mem_flatMap.2 ⟨other, ho, given⟩)
    omega

/-- What is given in a run does not depend on the order of the records, if what a record asks for
depends on the record alone. -/
theorem mem_given_perm {asks : ModelKind → Record → List String} (step : GivesFirst ν asked given seen)
    (alone : ∀ (s : RunState ν) kind record, asked (s.bind (some kind) record).1 = asks kind record)
    {records others : List (ModelKind × Record)} (perm : records.Perm others) (s : RunState ν) (k : String) :
    k ∈ (s.bindAll records).1.flatMap given ↔ k ∈ (s.bindAll others).1.flatMap given := by
  have asked_eq (xs : List (ModelKind × Record)) (s : RunState ν) :
      (s.bindAll xs).1.flatMap asked = xs.flatMap fun e => asks e.1 e.2 := by
    induction xs generalizing s with
    | nil => rfl
    | cons entry rest ih =>
      rw [RunState.bindAll_cons, List.flatMap_cons, List.flatMap_cons, ih, alone]
  have given_iff (xs : List (ModelKind × Record)) :
      k ∈ (s.bindAll xs).1.flatMap given ↔ k ∈ (xs.flatMap fun e => asks e.1 e.2) ∧ k ∉ seen s.claims := by
    rw [← asked_eq xs s, ← List.count_pos_iff, count_flatMap_given_bindAll step]
    split
    · rename_i h
      exact iff_of_true Nat.one_pos h
    · rename_i h
      exact iff_of_false (Nat.lt_irrefl 0) h
  rw [given_iff, given_iff, (perm.flatMap_right _).mem_iff]

end Runs

end Run

/-! ## Emitted elements are fit -/

namespace ModelKind

variable {kind : ModelKind} {record : Record} {s : Subject}

theorem tags_given {m : Metric} (h : kind.subject record = .ok (.metric m)) : "" ∉ m.tags := by
  obtain rfl : ModelKind.metric = kind := subject_kind h
  unfold subject at h
  simp only [bind, Except.bind, pure, Except.pure] at h
  split at h
  · cases h
  · rename_i fields
    cases h
    exact Metric.tags_given fields

theorem valid_of_mem_shared (h : kind.subject record = .ok s) {n : Node} (hn : n ∈ s.shared) :
    n.Valid := by
  refine Node.valid_iff.2 ⟨?_, ?_⟩
  · cases s with
    | dashboard d =>
      simp only [Subject.shared, List.mem_append, List.mem_singleton] at hn
      rcases hn with rfl | hn
      · simp [Dashboard.clusterNode, Dashboard.clusterKey, clusterKey]
      · split at hn
        · cases hn
        · rw [List.mem_singleton.1 hn]
          simp [Dashboard.groupNode, Dashboard.groupKey, dashboardGroupKey]
    | metric m =>
      simp only [Subject.shared, List.mem_append, List.mem_map, Option.mem_toList,
        Option.map_eq_some_iff] at hn
      rcases hn with ⟨tag, ht, rfl⟩ | ⟨type, _, rfl⟩
      · rintro rfl
        exact tags_given h ht
      · simp [Metric.typeNode, metricTypeKey]
    | _ => cases hn
  · have := Subject.label_mem_guardedLabels hn
    cases s <;> simp only [Subject.kind, guardedLabels, List.mem_cons, List.not_mem_nil, or_false] at this
    all_goals rcases this with h | h <;> rw [h] <;> rfl

/-- The labels at the ends of the relations of metrics. -/
def metricRelationLabels : List String := ["Metric", "Dashboard", "Description", "Tag", "Metrictype"]

/-- The types of the relations of metrics, in both directions. -/
def metricRelationTypes : List String :=
  ["METRIC_OF", "METRIC", "DESCRIPTION", "DESCRIPTION_OF", "TAG", "TAG_OF", "METRIC_TYPE", "METRIC_TYPE_OF"]

theorem checkLabel_of_mem {label : String} (h : label ∈ metricRelationLabels) :
    checkLabel label = .ok () := by
  rw [checkLabel_eq_ok_iff]
  revert label
  decide +kernel

theorem checkRelationType_of_mem {type : String} (h : type ∈ metricRelationTypes) :
    checkRelationType type = .ok () := by
  rw [checkRelationType_eq_ok_iff]
  revert type
  decide +kernel

theorem valid_of_mem_relations {m : Metric} (h : kind.subject record = .ok (.metric m)) {r : Relation}
    (hr : r ∈ m.relations) : r.Valid := by
  simp only [Metric.relations, List.mem_append, List.mem_singleton, List.mem_map, Option.mem_toList,
    Option.map_eq_some_iff] at hr
  have ends : r.startKey ≠ "" ∧ r.endKey ≠ "" := by
    refine ⟨?_, ?_⟩
    · have key : m.key ≠ "" := by simp [Metric.key, metricKey]
      rcases hr with ((rfl | ⟨text, _, rfl⟩) | ⟨tag, _, rfl⟩) | ⟨type, _, rfl⟩ <;> exact key
    · rcases hr with ((rfl | ⟨text, _, rfl⟩) | ⟨tag, ht, rfl⟩) | ⟨type, _, rfl⟩
      · simp [Metric.dashboardRelation, Metric.dashboardKey]
      · simp [Dashboard.descriptionRelation, descriptionKey]
      · rintro rfl
        exact tags_given h ht
      · simp [Metric.typeRelation, metricTypeKey]
  have words : r.startLabel ∈ metricRelationLabels ∧ r.endLabel ∈ metricRelationLabels ∧
      r.kind ∈ metricRelationTypes ∧ r.reverseKind ∈ metricRelationTypes := by
    rcases hr with ((rfl | ⟨text, _, rfl⟩) | ⟨tag, _, rfl⟩) | ⟨type, _, rfl⟩ <;>
      simp [metricRelationLabels, metricRelationTypes, Metric.dashboardRelation,
        Dashboard.descriptionRelation, Dashboard.tagRelation, Metric.typeRelation]
  obtain ⟨startLabel, endLabel, forth, back⟩ := words
  exact Relation.valid_iff.2 ⟨ends.1, ends.2, checkLabel_of_mem startLabel, checkLabel_of_mem endLabel,
    checkRelationType_of_mem forth, checkRelationType_of_mem back⟩

theorem valid_of_mem_guardedNodes {c c' : Claims} {m : Model} (h : kind.build record c = .ok (m, c'))
    {n : Node} (hn : n ∈ m.guardedNodes) : n.Valid := by
  have shared := (Claims.firsts_sublist _ _).subset ((guardedNodes_perm h).mem_iff.1 hn)
  obtain ⟨s, hs, rfl, -⟩ := build_eq_ok h
  exact valid_of_mem_shared hs shared

theorem valid_of_mem_guardedRelations {c c' : Claims} {m : Model}
    (h : kind.build record c = .ok (m, c')) {r : Relation} (hr : r ∈ m.guardedRelations) : r.Valid := by
  obtain ⟨s, hs, rfl, -⟩ := build_eq_ok h
  cases s with
  | metric m => exact valid_of_mem_relations hs ((c.claimRelations_sublist m.relations).subset hr)
  | _ => cases hr

end ModelKind

namespace Run

variable {ν : Type}

theorem mem_bindAll {s : RunState ν} {records : List (ModelKind × Record)}
    {outcome : Except ModelError Payload} (h : outcome ∈ (s.bindAll records).1) :
    ∃ (before : RunState ν) (kind : ModelKind) (record : Record),
      outcome = (before.bind (some kind) record).1 := by
  induction records generalizing s with
  | nil => cases h
  | cons entry rest ih =>
    obtain ⟨kind, record⟩ := entry
    rw [RunState.bindAll_cons] at h
    rcases List.mem_cons.1 h with rfl | h
    · exact ⟨s, kind, record, rfl⟩
    · exact ih h

/-- What is emitted under a claim passes its check when it is handed out. -/
theorem valid_of_mem_bindAll {s : RunState ν} {records : List (ModelKind × Record)}
    {outcome : Except ModelError Payload} (h : outcome ∈ (s.bindAll records).1) :
    (∀ n ∈ guardedNodes outcome, n.Valid) ∧ ∀ r ∈ guardedRelations outcome, r.Valid := by
  obtain ⟨before, kind, record, rfl⟩ := mem_bindAll h
  unfold RunState.bind
  dsimp only
  split
  · rename_i built
    exact ⟨fun n hn => ModelKind.valid_of_mem_guardedNodes built hn,
      fun r hr => ModelKind.valid_of_mem_guardedRelations built hr⟩
  · exact ⟨nofun, nofun⟩

/-- **Shared elements are emitted once in a run**, whose claims are empty at its start. A key that
a bound record asks for stands on one of the nodes that are emitted under a claim, and the first
record that asks for it emits that node. A relation of a metric is emitted once. Records that are
not bound claim nothing, so the claims are in the end those of the bound ones. In another order
the same records emit the same keys and the same relations. All this is emitted in truth: it
passes the checks. -/
theorem shared_emitted_once (s : RunState ν) (fresh : s.claims = {}) (records : List (ModelKind × Record)) :
    (∀ key ∈ (s.bindAll records).1.flatMap requestedKeys,
      ∃ before outcome after, (s.bindAll records).1 = before ++ outcome :: after ∧
        key ∈ requestedKeys outcome ∧ (∀ earlier ∈ before, key ∉ requestedKeys earlier) ∧
        ((guardedNodes outcome).map Node.key).count key = 1 ∧
        ∀ other ∈ before ++ after, key ∉ (guardedNodes other).map Node.key) ∧
    (∀ id ∈ (s.bindAll records).1.flatMap requestedRelations,
      ((s.bindAll records).1.flatMap fun o => (guardedRelations o).map Relation.identity).count id = 1) ∧
    ((∀ before kind record after e, records = before ++ (kind, record) :: after →
        ((s.bindAll before).2.bind (some kind) record).1 = .error e →
        ((s.bindAll before).2.bind (some kind) record).2.claims = (s.bindAll before).2.claims) ∧
      (∀ key, key ∈ (s.bindAll records).2.claims.nodes ↔
        key ∈ (s.bindAll records).1.flatMap requestedKeys) ∧
      ∀ id, id ∈ (s.bindAll records).2.claims.relations ↔
        id ∈ (s.bindAll records).1.flatMap requestedRelations) ∧
    (∀ others, records.Perm others →
      (∀ key, key ∈ (s.bindAll records).1.flatMap (fun o => (guardedNodes o).map Node.key) ↔
        key ∈ (s.bindAll others).1.flatMap fun o => (guardedNodes o).map Node.key) ∧
      ∀ id, id ∈ (s.bindAll records).1.flatMap (fun o => (guardedRelations o).map Relation.identity) ↔
        id ∈ (s.bindAll others).1.flatMap fun o => (guardedRelations o).map Relation.identity) ∧
    ∀ outcome ∈ (s.bindAll records).1,
      (∀ n ∈ guardedNodes outcome, n.Valid) ∧ ∀ r ∈ guardedRelations outcome, r.Valid := by
  have noNodes : s.claims.nodes = [] := by rw [fresh]
  have noRelations : s.claims.relations = [] := by rw [fresh]
  refine ⟨?_, ?_, ⟨?_, ?_, ?_⟩, ?_, ?_⟩
  · intro key hk
    exact first_given_bindAll givesFirst_guardedNodes noNodes hk
  · intro id hid
    rw [count_flatMap_given_bindAll givesFirst_guardedRelations, if_pos ⟨hid, by simp [noRelations]⟩]
  · intro before kind record _ e _ failed
    rw [bind_of_error _ _ _ failed]
  · intro key
    simpa [noNodes] using mem_seen_bindAll givesFirst_guardedNodes records s key
  · intro id
    simpa [noRelations] using mem_seen_bindAll givesFirst_guardedRelations records s id
  · intro others perm
    have keysAlone (s : RunState ν) kind record :=
      subject_bind s kind record [] Subject.requestedKeys
    have relationsAlone (s : RunState ν) kind record :=
      subject_bind s kind record [] Subject.requestedRelations
    exact ⟨mem_given_perm givesFirst_guardedNodes keysAlone perm s,
      mem_given_perm givesFirst_guardedRelations relationsAlone perm s⟩
  · intro outcome ho
    exact valid_of_mem_bindAll ho

/-- A run that has not begun. -/
def start : RunState Unit := { files := {}, network := () }

/-- A metric with a tag given twice, the same metric again on another dashboard, and in between a
dashboard without a name. -/
def twiceTagged : List (ModelKind × Record) :=
  let metric (dashboard : String) : Record :=
    [("dashboard_group", .text "sales"), ("dashboard_name", .text dashboard),
      ("expression", .text "sum(x)"), ("name", .text "total"), ("tags", .array [.text "money", .text "money"])]
  [(.metric, metric "daily"), (.dashboard, [("dashboard_group", .text "sales")]), (.metric, metric "weekly")]

/-- The tag and the relation to it are emitted once, by the first of the two records. -/
theorem shared_emitted_once_twiceTagged :
    start.claims = {} ∧
      (∃ before outcome after, (start.bindAll twiceTagged).1 = before ++ outcome :: after ∧
        ((guardedNodes outcome).map Node.key).count "money" = 1 ∧
        ∀ other ∈ before ++ after, "money" ∉ (guardedNodes other).map Node.key) ∧
      ((start.bindAll twiceTagged).1.flatMap fun o => (guardedRelations o).map Relation.identity).count
        "(Metric:metric://total)-[TAG]->(Tag:money)" = 1 := by
  have once := shared_emitted_once start rfl twiceTagged
  have tag : "money" ∈ (start.bindAll twiceTagged).1.flatMap requestedKeys := by decide +kernel
  have relation : "(Metric:metric://total)-[TAG]->(Tag:money)" ∈
      (start.bindAll twiceTagged).1.flatMap requestedRelations := by decide +kernel
  obtain ⟨before, outcome, after, split, -, -, one, others⟩ := once.1 "money" tag
  exact ⟨rfl, ⟨before, outcome, after, split, one, others⟩, once.2.1 _ relation⟩

end Run

end MetaGraph

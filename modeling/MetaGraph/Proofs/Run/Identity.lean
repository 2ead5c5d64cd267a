/-
Which relations a run takes for the same. A claimed relation is known by one
text, which marks where its labels, keys and type begin but does not escape
them. Two relations with one text either agree in all five, or the start key
of one of them runs on through what the other one has between its keys. A key
is free text, so both happen; a run drops no relation but its repetitions
exactly where the second does not.
-/
import Mathlib.Data.List.Basic
import Mathlib.Data.List.Nodup
import MetaGraph.Proofs.Run.Once
import MetaGraph.Proofs.Text.Cuts

namespace MetaGraph

/-! ## One identity -/

namespace Relation

/-- The same edge: both ends and the forward type agree. -/
def SameEdge (r₁ r₂ : Relation) : Prop :=
  r₁.startLabel = r₂.startLabel ∧ r₁.startKey = r₂.startKey ∧ r₁.kind = r₂.kind ∧
    r₁.endLabel = r₂.endLabel ∧ r₁.endKey = r₂.endKey

instance (r₁ r₂ : Relation) : Decidable (r₁.SameEdge r₂) := inferInstanceAs (Decidable (_ ∧ _))

/-- What the identity of a relation has between its keys. -/
def middle (r : Relation) : String := ")-[" ++ r.kind ++ "]->(" ++ r.endLabel ++ ":"

/-- The start key of the second relation goes on where that of the first ends: through what the
first has between its keys, and up to where the first has what the second has between its own. -/
def RunsInto (r₁ r₂ : Relation) : Prop :=
  r₁.startLabel = r₂.startLabel ∧ ∃ between,
    r₂.startKey = r₁.startKey ++ r₁.middle ++ between ∧ r₁.endKey = between ++ r₂.middle ++ r₂.endKey

/-- Neither a label nor the type holds what marks its end. The keys may hold anything. -/
structure Plain (r : Relation) : Prop where
  startLabel : ':' ∉ r.startLabel.toList
  kind : ')' ∉ r.kind.toList ∧ ']' ∉ r.kind.toList
  endLabel : ')' ∉ r.endLabel.toList ∧ ':' ∉ r.endLabel.toList

variable {r₁ r₂ : Relation}

/-- What comes after the first character between the keys. -/
def middleRest (r : Relation) : List Char :=
  '-' :: '[' :: (r.kind.toList ++ ']' :: '-' :: '>' :: '(' :: (r.endLabel.toList ++ [':']))

theorem middle_toList (r : Relation) : r.middle.toList = ')' :: r.middleRest := by
  simp [middle, middleRest]

theorem identity_toList (r : Relation) :
    r.identity.toList = '(' :: (r.startLabel.toList ++
      ':' :: (r.startKey.toList ++ r.middle.toList ++ r.endKey.toList ++ [')'])) := by
  simp [identity, middle]

theorem Plain.notMem_middleRest (h : r₁.Plain) : ')' ∉ r₁.middleRest := by
  simp [middleRest, h.kind.1, h.endLabel.1]

/-- Past the same start keys the types, the end labels and the end keys are read off one by one. -/
theorem Plain.middle_inj (h₁ : r₁.Plain) (h₂ : r₂.Plain)
    (h : r₁.middleRest ++ r₁.endKey.toList = r₂.middleRest ++ r₂.endKey.toList) :
    r₁.kind = r₂.kind ∧ r₁.endLabel = r₂.endLabel ∧ r₁.endKey = r₂.endKey := by
  simp only [middleRest, List.cons_append, List.append_assoc, List.nil_append, List.cons.injEq,
    true_and] at h
  obtain ⟨kind, h⟩ := Text.front_inj h₁.kind.2 h₂.kind.2 h
  simp only [List.cons.injEq, true_and] at h
  obtain ⟨endLabel, endKey⟩ := Text.front_inj h₁.endLabel.2 h₂.endLabel.2 h
  exact ⟨String.toList_inj.1 kind, String.toList_inj.1 endLabel, String.toList_inj.1 endKey⟩

theorem SameEdge.identity_eq (h : r₁.SameEdge r₂) : r₁.identity = r₂.identity := by
  obtain ⟨startLabel, startKey, kind, endLabel, endKey⟩ := h
  rw [identity, identity, startLabel, startKey, kind, endLabel, endKey]

theorem RunsInto.identity_eq (h : r₁.RunsInto r₂) : r₁.identity = r₂.identity := by
  obtain ⟨startLabel, between, startKey, endKey⟩ := h
  apply String.toList_inj.1
  rw [identity_toList, identity_toList, startLabel, startKey, endKey]
  simp

/-- The shorter start key of two relations with one identity is all of the other one, or runs
through what comes after it. -/
theorem Plain.cases_of_identity_eq (h₁ : r₁.Plain) (h₂ : r₂.Plain) (h : r₁.identity = r₂.identity)
    (hl : r₁.startKey.toList.length ≤ r₂.startKey.toList.length) : r₁.SameEdge r₂ ∨ r₁.RunsInto r₂ := by
  have texts := congrArg String.toList h
  rw [identity_toList, identity_toList] at texts
  obtain ⟨startLabel, texts⟩ := Text.front_inj h₁.startLabel h₂.startLabel (List.cons.inj texts).2
  have texts := List.append_cancel_right texts
  have startLabel := String.toList_inj.1 startLabel
  simp only [middle_toList, List.append_assoc, List.cons_append] at texts
  rcases Text.front_cases h₁.notMem_middleRest texts hl with same | ⟨between, startKey, endKey⟩
  · rw [same] at texts
    obtain ⟨kind, endLabel, endKey⟩ := h₁.middle_inj h₂ (List.cons.inj (List.append_cancel_left texts)).2
    exact .inl ⟨startLabel, String.toList_inj.1 same, kind, endLabel, endKey⟩
  · refine .inr ⟨startLabel, String.ofList between, String.toList_inj.1 ?_, String.toList_inj.1 ?_⟩
    · simp [startKey, middle_toList]
    · simp [endKey, middle_toList]

/-- **Two relations have one identity** exactly if they are the same edge or the start key of one
runs on through the other. -/
theorem Plain.identity_eq_iff (h₁ : r₁.Plain) (h₂ : r₂.Plain) :
    r₁.identity = r₂.identity ↔ r₁.SameEdge r₂ ∨ r₁.RunsInto r₂ ∨ r₂.RunsInto r₁ := by
  constructor
  · intro h
    rcases Nat.le_total r₁.startKey.toList.length r₂.startKey.toList.length with hl | hl
    · exact (h₁.cases_of_identity_eq h₂ h hl).imp_right .inl
    · rcases h₂.cases_of_identity_eq h₁ h.symm hl with ⟨startLabel, startKey, kind, endLabel, endKey⟩ | runs
      · exact .inl ⟨startLabel.symm, startKey.symm, kind.symm, endLabel.symm, endKey.symm⟩
      · exact .inr (.inr runs)
  · rintro (h | h | h)
    · exact h.identity_eq
    · exact h.identity_eq
    · exact h.identity_eq.symm

/-- A key that runs on is longer, so it is not the same. -/
theorem RunsInto.startKey_ne (h : r₁.RunsInto r₂) : r₁.startKey ≠ r₂.startKey := by
  obtain ⟨-, between, startKey, -⟩ := h
  intro same
  have lengths := congrArg String.length (same.trans startKey)
  simp only [String.length_append, ← String.length_toList (s := r₁.middle), middle_toList,
    List.length_cons] at lengths
  omega

end Relation

/-! ## Claims -/

namespace Claims

theorem claimRelation_fst (c : Claims) (r : Relation) : (c.claimRelation r).1 = !c.containsRelation r := by
  unfold claimRelation
  split <;> simp_all

/-- A second relation is refused if it has the identity of the first. -/
theorem claimRelation_claimRelation {c : Claims} (empty : c.relations = []) (r₁ r₂ : Relation) :
    ((c.claimRelation r₁).2.claimRelation r₂).1 = false ↔ r₁.identity = r₂.identity := by
  rw [claimRelation_fst, Bool.not_eq_false']
  simp [claimRelation, containsRelation, empty, eq_comm]

end Claims

/-! ## Runs -/

namespace Subject

/-- The relations that a metric asks for. -/
def requestedEdges : Subject → List Relation
  | metric m => m.relations
  | _ => []

theorem requestedRelations_eq (s : Subject) :
    s.requestedRelations = s.requestedEdges.map Relation.identity := by
  cases s <;> rfl

/-- The labels and types of what a metric asks for are words of its own. -/
theorem plain_of_mem_requestedEdges {s : Subject} {r : Relation} (h : r ∈ s.requestedEdges) : r.Plain := by
  cases s with
  | metric m =>
    simp only [requestedEdges, Metric.relations, List.mem_append, List.mem_singleton, List.mem_map,
      Option.mem_toList, Option.map_eq_some_iff] at h
    rcases h with ((rfl | ⟨text, _, rfl⟩) | ⟨tag, _, rfl⟩) | ⟨type, _, rfl⟩ <;>
      constructor <;> simp [Metric.dashboardRelation, Dashboard.descriptionRelation,
        Dashboard.tagRelation, Metric.typeRelation]
  | _ => cases h

end Subject

namespace Run

/-- The relations that a metric's record asks for; none if it is not bound. -/
def requestedEdges (outcome : Except ModelError Payload) : List Relation :=
  (model? outcome).elim [] (·.subject.requestedEdges)

theorem map_identity_requestedEdges (outcome : Except ModelError Payload) :
    (requestedEdges outcome).map Relation.identity = requestedRelations outcome := by
  rw [requestedEdges, requestedRelations]
  cases model? outcome with
  | none => rfl
  | some m => exact m.subject.requestedRelations_eq.symm

theorem plain_of_mem_requestedEdges {outcomes : List (Except ModelError Payload)} {r : Relation}
    (h : r ∈ outcomes.flatMap requestedEdges) : r.Plain := by
  obtain ⟨outcome, -, h⟩ := List.mem_flatMap.1 h
  rw [requestedEdges] at h
  cases hm : model? outcome with
  | none =>
    rw [hm] at h
    cases h
  | some m =>
    rw [hm] at h
    exact Subject.plain_of_mem_requestedEdges h

variable {ν : Type}

/-- No relation is emitted that was not asked for. -/
theorem guardedRelations_subset (s : RunState ν) (kind : ModelKind) (record : Record) :
    guardedRelations (s.bind (some kind) record).1 ⊆ requestedEdges (s.bind (some kind) record).1 := by
  unfold RunState.bind
  dsimp only
  split
  · rename_i m c' h
    obtain ⟨subject, -, rfl, -⟩ := ModelKind.build_eq_ok h
    cases subject with
    | metric m => exact (s.claims.claimRelations_sublist m.relations).subset
    | _ => exact List.nil_subset _
  · exact List.nil_subset _

/-- **No relation of a run but its repetitions is dropped** exactly if no start key of those that
are asked for runs on through another of them. -/
theorem edges_kept_iff (s : RunState ν) (fresh : s.claims.relations = [])
    (records : List (ModelKind × Record)) :
    (∀ r ∈ (s.bindAll records).1.flatMap requestedEdges,
        ∃ kept ∈ (s.bindAll records).1.flatMap guardedRelations, kept.SameEdge r) ↔
      ∀ r₁ ∈ (s.bindAll records).1.flatMap requestedEdges,
        ∀ r₂ ∈ (s.bindAll records).1.flatMap requestedEdges, ¬ r₁.RunsInto r₂ := by
  have count := count_flatMap_given_bindAll (givesFirst_guardedRelations (ν := ν)) records s
  simp only [fresh, List.not_mem_nil, not_false_eq_true, and_true] at count
  have identities : (s.bindAll records).1.flatMap (fun o => (guardedRelations o).map Relation.identity) =
      ((s.bindAll records).1.flatMap guardedRelations).map Relation.identity := by
    rw [List.map_flatMap]
  rw [identities] at count
  constructor
  · intro kept r₁ h₁ r₂ h₂ runs
    obtain ⟨k₁, hk₁, same₁⟩ := kept r₁ h₁
    obtain ⟨k₂, hk₂, same₂⟩ := kept r₂ h₂
    -- Of the two only one is emitted, since they have one identity.
    have once : (((s.bindAll records).1.flatMap guardedRelations).map Relation.identity).Nodup := by
      refine List.nodup_iff_count_le_one.2 fun id => ?_
      rw [count]
      split <;> omega
    have one : k₁.identity = k₂.identity := by
      rw [same₁.identity_eq, runs.identity_eq, same₂.identity_eq]
    obtain rfl := List.inj_on_of_nodup_map once hk₁ hk₂ one
    exact runs.startKey_ne (same₁.2.1.symm.trans same₂.2.1)
  · intro apart r hr
    have asked : r.identity ∈ (s.bindAll records).1.flatMap requestedRelations := by
      obtain ⟨outcome, ho, hr⟩ := List.mem_flatMap.1 hr
      refine List.mem_flatMap.2 ⟨outcome, ho, ?_⟩
      rw [← map_identity_requestedEdges]
      exact List.mem_map_of_mem hr
    have given := count r.identity
    rw [if_pos asked] at given
    obtain ⟨kept, hk, same⟩ := List.mem_map.1 (List.count_pos_iff.1 (by rw [given]; exact Nat.one_pos))
    have askedToo : kept ∈ (s.bindAll records).1.flatMap requestedEdges := by
      obtain ⟨outcome, ho, hk⟩ := List.mem_flatMap.1 hk
      obtain ⟨before, kind, record, rfl⟩ := mem_bindAll ho
      exact List.mem_flatMap.2 ⟨_, ho, guardedRelations_subset before kind record hk⟩
    have plain := (plain_of_mem_requestedEdges askedToo).identity_eq_iff (plain_of_mem_requestedEdges hr)
    rcases plain.1 same with same | runs | runs
    · exact ⟨kept, hk, same⟩
    · exact absurd runs (apart kept askedToo r hr)
    · exact absurd runs (apart r hr kept askedToo)

end Run

/-- **When relations are told apart.** The second of two claims is refused if the relations are the
same edge; where their labels and types hold none of the marks, it is refused in one case more: if
the start key of one relation runs on through the other. A run drops a relation that is no
repetition exactly if that happens among those that its metrics ask for. -/
theorem edges_told_apart {ν : Type} (c : Claims) (empty : c.relations = []) (r₁ r₂ : Relation)
    (s : RunState ν) (fresh : s.claims.relations = []) (records : List (ModelKind × Record)) :
    (r₁.SameEdge r₂ → ((c.claimRelation r₁).2.claimRelation r₂).1 = false) ∧
      (r₁.Plain → r₂.Plain →
        (((c.claimRelation r₁).2.claimRelation r₂).1 = false ↔
          r₁.SameEdge r₂ ∨ r₁.RunsInto r₂ ∨ r₂.RunsInto r₁)) ∧
      ((∀ r ∈ (s.bindAll records).1.flatMap Run.requestedEdges,
          ∃ kept ∈ (s.bindAll records).1.flatMap Run.guardedRelations, kept.SameEdge r) ↔
        ∀ r ∈ (s.bindAll records).1.flatMap Run.requestedEdges,
          ∀ r' ∈ (s.bindAll records).1.flatMap Run.requestedEdges, ¬ r.RunsInto r') := by
  refine ⟨fun same => ?_, fun h₁ h₂ => ?_, Run.edges_kept_iff s fresh records⟩
  · exact (Claims.claimRelation_claimRelation empty r₁ r₂).2 same.identity_eq
  · rw [Claims.claimRelation_claimRelation empty, h₁.identity_eq_iff h₂]

namespace Run

/-- The record of a metric on a dashboard. -/
def metricOn (name group dashboard : String) : ModelKind × Record :=
  (.metric, [("dashboard_group", .text group), ("dashboard_name", .text dashboard),
    ("expression", .text "sum(x)"), ("name", .text name)])

/-- The relation of a metric to a dashboard. -/
def metricOf (name group dashboard : String) : Relation where
  startLabel := "Metric"
  startKey := "metric://" ++ name
  endLabel := "Dashboard"
  endKey := group ++ "://" ++ dashboard
  kind := "METRIC_OF"
  reverseKind := "METRIC"

/-- A metric on two dashboards: the two relations are told apart, and both are emitted. -/
theorem edges_told_apart_twoDashboards :
    (((({} : Claims).claimRelation (metricOf "total" "sales" "daily")).2.claimRelation
        (metricOf "total" "sales" "weekly")).1 = false ↔
      (metricOf "total" "sales" "daily").SameEdge (metricOf "total" "sales" "weekly") ∨
        (metricOf "total" "sales" "daily").RunsInto (metricOf "total" "sales" "weekly") ∨
        (metricOf "total" "sales" "weekly").RunsInto (metricOf "total" "sales" "daily")) ∧
      (∀ r ∈ (start.bindAll [metricOn "total" "sales" "daily", metricOn "total" "sales" "weekly"]).1.flatMap
          requestedEdges,
        ∃ kept ∈ (start.bindAll
            [metricOn "total" "sales" "daily", metricOn "total" "sales" "weekly"]).1.flatMap
          guardedRelations, kept.SameEdge r) := by
  have plain (dashboard : String) : (metricOf "total" "sales" dashboard).Plain :=
    ⟨by simp [metricOf], by simp [metricOf], by simp [metricOf]⟩
  have apart := edges_told_apart {} rfl (metricOf "total" "sales" "daily") (metricOf "total" "sales" "weekly")
    start rfl [metricOn "total" "sales" "daily", metricOn "total" "sales" "weekly"]
  refine ⟨apart.2.1 (plain _) (plain _), apart.2.2.2 fun r hr r' hr' runs => ?_⟩
  -- Both relations start at the same key.
  have startKey : ∀ r ∈ (start.bindAll [metricOn "total" "sales" "daily",
      metricOn "total" "sales" "weekly"]).1.flatMap requestedEdges, r.startKey = "metric://total" := by
    decide +kernel
  exact runs.startKey_ne ((startKey r hr).trans (startKey r' hr').symm)

/-- The name of the second metric runs on through the relation of the first: the two relations are
different edges, but the second claim is refused, and in a run the second relation is dropped. -/
theorem edge_dropped :
    ¬ (metricOf "a" "g)-[METRIC_OF]->(Dashboard:h" "d").SameEdge
        (metricOf "a)-[METRIC_OF]->(Dashboard:g" "h" "d") ∧
      ((({} : Claims).claimRelation (metricOf "a" "g)-[METRIC_OF]->(Dashboard:h" "d")).2.claimRelation
        (metricOf "a)-[METRIC_OF]->(Dashboard:g" "h" "d")).1 = false ∧
      (start.bindAll [metricOn "a" "g)-[METRIC_OF]->(Dashboard:h" "d",
          metricOn "a)-[METRIC_OF]->(Dashboard:g" "h" "d"]).1.flatMap requestedEdges =
        [metricOf "a" "g)-[METRIC_OF]->(Dashboard:h" "d", metricOf "a)-[METRIC_OF]->(Dashboard:g" "h" "d"] ∧
      (start.bindAll [metricOn "a" "g)-[METRIC_OF]->(Dashboard:h" "d",
          metricOn "a)-[METRIC_OF]->(Dashboard:g" "h" "d"]).1.flatMap guardedRelations =
        [metricOf "a" "g)-[METRIC_OF]->(Dashboard:h" "d"] := by
  decide +kernel

end Run

end MetaGraph

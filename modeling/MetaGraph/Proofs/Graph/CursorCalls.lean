/-
Calls on a cursor in any order. A call takes the next element of its side as
it is, the next one checked, or all that are left. At any time what the calls
consumed and what is left make up the list the cursor was given, in its
order; the calls of one side know nothing of the other; and a side that has
once come to its end brings nothing more.
-/
import MetaGraph.Proofs.Graph.Pulls

namespace MetaGraph

/-! ## Pulls from one list -/

namespace Pull

/-- How elements are pulled: the next one as it is, the next one checked, or all that are left,
each of them checked. -/
inductive Way where
  | take
  | next
  | drain
deriving DecidableEq, Repr

variable {α β : Type}

/-- The elements that a pull brings, or the fault that ended it; and what is left. -/
def pull (check : α → Except GraphError Unit) : Way → List α → Except GraphError (List α) × List α
  | .take, xs => (.ok (take xs).1.toList, (take xs).2)
  | .next, xs => ((next check xs).1.map Option.toList, (next check xs).2)
  | .drain, xs => drain check xs

/-- What a pull consumed, told by what it brought: the elements handed out, of which a checked pull
hands out none that fails its check; or the element whose fault is reported, and before it those
that passed and are lost with it. -/
def Accounts (check : α → Except GraphError Unit) (way : Way) (brought : Except GraphError (List α))
    (consumed : List α) : Prop :=
  match way, brought with
  | .take, .ok xs => consumed = xs ∧ xs.length ≤ 1
  | .take, .error _ => False
  | .next, .ok xs => consumed = xs ∧ xs.length ≤ 1 ∧ ∀ x ∈ xs, check x = .ok ()
  | .next, .error e => ∃ x, consumed = [x] ∧ check x = .error e
  | .drain, .ok xs => consumed = xs ∧ ∀ x ∈ xs, check x = .ok ()
  | .drain, .error e =>
    ∃ passed x, consumed = passed ++ [x] ∧ (∀ y ∈ passed, check y = .ok ()) ∧ check x = .error e

/-- Whether a pull tells that nothing is left. -/
def Exhausts : Way → Except GraphError (List α) → Prop
  | .take, brought | .next, brought => brought = .ok []
  | .drain, brought => ∃ xs, brought = .ok xs

variable {check : α → Except GraphError Unit}

theorem drain_accounts (xs : List α) :
    ∃ consumed, xs = consumed ++ (drain check xs).2 ∧ Accounts check .drain (drain check xs).1 consumed := by
  induction xs with
  | nil => exact ⟨[], rfl, rfl, nofun⟩
  | cons x rest ih =>
    obtain ⟨consumed, parts, accounts⟩ := ih
    cases hx : check x with
    | error e =>
      refine ⟨[x], by simp [drain, hx], ?_⟩
      simp only [drain, hx]
      exact ⟨[], x, rfl, nofun, hx⟩
    | ok u =>
      refine ⟨x :: consumed, by simp [drain, hx, ← parts], ?_⟩
      simp only [drain, hx]
      cases hd : (drain check rest).1 with
      | error e =>
        rw [hd] at accounts
        obtain ⟨passed, y, whole, valid, fault⟩ := accounts
        exact ⟨x :: passed, y, by simp [whole], List.forall_mem_cons.2 ⟨hx, valid⟩, fault⟩
      | ok ys =>
        rw [hd] at accounts
        exact ⟨by rw [accounts.1], List.forall_mem_cons.2 ⟨hx, accounts.2⟩⟩

/-- A pull consumes the front of the list, as it tells. -/
theorem pull_accounts (check : α → Except GraphError Unit) (way : Way) (xs : List α) :
    ∃ consumed, xs = consumed ++ (pull check way xs).2 ∧ Accounts check way (pull check way xs).1 consumed := by
  cases way with
  | take =>
    cases xs with
    | nil => exact ⟨[], rfl, rfl, Nat.zero_le 1⟩
    | cons x rest => exact ⟨[x], rfl, rfl, Nat.le_refl 1⟩
  | next =>
    cases xs with
    | nil => exact ⟨[], rfl, rfl, Nat.zero_le 1, nofun⟩
    | cons x rest =>
      refine ⟨[x], rfl, ?_⟩
      cases hx : check x with
      | error e => simp [pull, next, hx, Except.map, Accounts]
      | ok u => simp [pull, next, hx, Except.map, Accounts]
  | drain => exact drain_accounts xs

theorem drain_ok {xs ys : List α} (h : (drain check xs).1 = .ok ys) : (drain check xs).2 = [] := by
  induction xs generalizing ys with
  | nil => rfl
  | cons x rest ih =>
    cases hx : check x with
    | error e => simp [drain, hx] at h
    | ok u =>
      simp only [drain, hx] at h ⊢
      obtain ⟨zs, hd, -⟩ := except_map_ok.1 h
      exact ih hd

theorem pull_exhausts (check : α → Except GraphError Unit) {way : Way} {xs : List α}
    (h : Exhausts way (pull check way xs).1) : (pull check way xs).2 = [] := by
  cases way with
  | take => cases xs <;> simp_all [pull, take, Exhausts]
  | next =>
    cases xs with
    | nil => rfl
    | cons x rest => cases hx : check x <;> simp [pull, next, hx, Exhausts, Except.map] at h
  | drain =>
    obtain ⟨ys, hd⟩ := h
    exact drain_ok hd

theorem pull_nil (check : α → Except GraphError Unit) (way : Way) : pull check way [] = (.ok [], []) := by
  cases way <;> rfl

/-- Pulls do not look at elements but through their check. -/
theorem pull_map (check : α → Except GraphError Unit) {check' : β → Except GraphError Unit} (f : α → β)
    (same : ∀ x, check' (f x) = check x) (way : Way) (xs : List α) :
    pull check' way (xs.map f) = ((pull check way xs).1.map (List.map f), (pull check way xs).2.map f) := by
  cases way with
  | take => cases xs <;> rfl
  | next =>
    cases xs with
    | nil => rfl
    | cons x rest => cases hx : check x <;> simp [pull, next, same, hx, Except.map]
  | drain =>
    simp only [pull]
    induction xs with
    | nil => rfl
    | cons x rest ih =>
      cases hx : check x with
      | error e => simp [drain, same, hx, Except.map]
      | ok u =>
        simp only [List.map_cons, drain, same, hx, ih]
        cases (drain check rest).1 <;> rfl

end Pull

/-! ## Calls on both sides -/

namespace Cursor

/-- The elements that a side still has. -/
def left (c : Cursor) : Side → List Element
  | .nodes => c.nodes.map .node
  | .relations => c.relations.map .relation

/-- A call on one side. -/
abbrev Call := Side × Pull.Way

/-- Serves a call: what it brings, and the cursor after it. -/
def serve (c : Cursor) : Call → Except GraphError (List Element) × Cursor
  | (.nodes, .take) => (.ok (c.takeNode.1.toList.map .node), c.takeNode.2)
  | (.nodes, .next) => (c.nextNode.1.map fun x => x.toList.map .node, c.nextNode.2)
  | (.nodes, .drain) => (c.drainNodes.1.map (List.map .node), c.drainNodes.2)
  | (.relations, .take) => (.ok (c.takeRelation.1.toList.map .relation), c.takeRelation.2)
  | (.relations, .next) => (c.nextRelation.1.map fun x => x.toList.map .relation, c.nextRelation.2)
  | (.relations, .drain) => (c.drainRelations.1.map (List.map .relation), c.drainRelations.2)

/-- A call that was served. -/
structure Event where
  side : Side
  way : Pull.Way
  brought : Except GraphError (List Element)
  consumed : List Element

/-- What a call consumes: what its side no longer has after it. -/
def consumedBy (c : Cursor) (call : Call) : List Element :=
  (c.left call.1).take ((c.left call.1).length - ((c.serve call).2.left call.1).length)

/-- Serves calls one after the other. -/
def events (c : Cursor) : List Call → List Event
  | [] => []
  | call :: calls => ⟨call.1, call.2, (c.serve call).1, c.consumedBy call⟩ :: (c.serve call).2.events calls

/-- The cursor after calls. -/
def afterCalls (c : Cursor) (calls : List Call) : Cursor := calls.foldl (fun c call => (c.serve call).2) c

/-- What the calls on a side consumed, in their order. -/
def consumedOn (side : Side) (events : List Event) : List Element :=
  (events.filter (·.side = side)).flatMap (·.consumed)

theorem serve_eq (c : Cursor) (side : Side) (way : Pull.Way) :
    (c.serve (side, way)).1 = (Pull.pull Element.check way (c.left side)).1 ∧
      (c.serve (side, way)).2.left side = (Pull.pull Element.check way (c.left side)).2 := by
  have nodes : Pull.pull Element.check way (c.nodes.map .node) = _ :=
    Pull.pull_map Node.check Element.node (fun _ => rfl) way c.nodes
  have relations : Pull.pull Element.check way (c.relations.map .relation) = _ :=
    Pull.pull_map Relation.check Element.relation (fun _ => rfl) way c.relations
  cases side with
  | nodes =>
    rw [left, nodes]
    cases way with
    | take => exact ⟨rfl, rfl⟩
    | next =>
      refine ⟨?_, rfl⟩
      simp only [serve, nextNode, Pull.pull]
      cases (Pull.next Node.check c.nodes).1 <;> rfl
    | drain => exact ⟨rfl, rfl⟩
  | relations =>
    rw [left, relations]
    cases way with
    | take => exact ⟨rfl, rfl⟩
    | next =>
      refine ⟨?_, rfl⟩
      simp only [serve, nextRelation, Pull.pull]
      cases (Pull.next Relation.check c.relations).1 <;> rfl
    | drain => exact ⟨rfl, rfl⟩

theorem left_serve_of_ne (c : Cursor) {side other : Side} (way : Pull.Way) (h : other ≠ side) :
    (c.serve (side, way)).2.left other = c.left other := by
  cases side <;> cases other <;> first | exact absurd rfl h | (cases way <;> rfl)

/-- What a call consumes is the front of what its side has, and is as the call tells. -/
theorem serve_accounts (c : Cursor) (side : Side) (way : Pull.Way) :
    c.left side = c.consumedBy (side, way) ++ (c.serve (side, way)).2.left side ∧
      Pull.Accounts Element.check way (c.serve (side, way)).1 (c.consumedBy (side, way)) := by
  obtain ⟨brought, rest⟩ := c.serve_eq side way
  obtain ⟨consumed, parts, accounts⟩ := Pull.pull_accounts Element.check way (c.left side)
  rw [← rest] at parts
  have front : c.consumedBy (side, way) = consumed := by
    have length := congrArg List.length parts
    rw [List.length_append] at length
    rw [consumedBy, length, Nat.add_sub_cancel, parts, List.take_left]
  rw [front, brought]
  exact ⟨parts, accounts⟩

/-! ## What holds of all calls -/

theorem afterCalls_cons (c : Cursor) (call : Call) (calls : List Call) :
    c.afterCalls (call :: calls) = (c.serve call).2.afterCalls calls := rfl

theorem left_afterCalls (c : Cursor) (calls : List Call) (side : Side) :
    c.left side = consumedOn side (c.events calls) ++ (c.afterCalls calls).left side := by
  induction calls generalizing c with
  | nil => rfl
  | cons call calls ih =>
    obtain ⟨called, way⟩ := call
    have rest := ih (c.serve (called, way)).2
    rw [afterCalls_cons]
    by_cases h : called = side
    · subst h
      have parts := (c.serve_accounts called way).1
      rw [rest, ← List.append_assoc] at parts
      simpa [events, consumedOn] using parts
    · rw [left_serve_of_ne c way (Ne.symm h)] at rest
      simpa [events, consumedOn, h] using rest

theorem accounts_of_mem_events {c : Cursor} {calls : List Call} {e : Event} (h : e ∈ c.events calls) :
    Pull.Accounts Element.check e.way e.brought e.consumed := by
  induction calls generalizing c with
  | nil => cases h
  | cons call calls ih =>
    rcases List.mem_cons.1 h with here | later
    · rw [here]
      exact (c.serve_accounts call.1 call.2).2
    · exact ih later

/-- Calls of one side depend on what that side has. -/
theorem events_congr {c c' : Cursor} {side : Side} (same : c.left side = c'.left side) {calls : List Call}
    (h : ∀ call ∈ calls, call.1 = side) : c.events calls = c'.events calls := by
  induction calls generalizing c c' with
  | nil => rfl
  | cons call calls ih =>
    obtain ⟨called, way⟩ := call
    obtain ⟨here, later⟩ := List.forall_mem_cons.1 h
    obtain rfl : called = side := here
    obtain ⟨brought, rest⟩ := c.serve_eq called way
    obtain ⟨brought', rest'⟩ := c'.serve_eq called way
    rw [same] at brought rest
    have next : (c.serve (called, way)).2.left called = (c'.serve (called, way)).2.left called :=
      rest.trans rest'.symm
    simp only [events, consumedBy, same, next, brought.trans brought'.symm, ih next later]

/-- The calls of a side bring and consume what they would without those of the other side. -/
theorem filter_events (c : Cursor) (calls : List Call) (side : Side) :
    (c.events calls).filter (·.side = side) = c.events (calls.filter (·.1 = side)) := by
  induction calls generalizing c with
  | nil => rfl
  | cons call calls ih =>
    obtain ⟨called, way⟩ := call
    by_cases h : called = side
    · simp [events, h, ih]
    · have other := left_serve_of_ne c way (Ne.symm h)
      have rest : (c.serve (called, way)).2.events (calls.filter (·.1 = side)) =
          c.events (calls.filter (·.1 = side)) :=
        events_congr other fun call hc => by simpa using (List.mem_filter.1 hc).2
      simp [events, h, ih, rest]

theorem brought_of_left_nil {c : Cursor} {side : Side} (empty : c.left side = []) {calls : List Call} {e : Event}
    (h : e ∈ c.events calls) (on : e.side = side) : e.brought = .ok [] := by
  induction calls generalizing c with
  | nil => cases h
  | cons call calls ih =>
    obtain ⟨called, way⟩ := call
    have served := c.serve_eq called way
    rcases List.mem_cons.1 h with here | later
    · subst here
      obtain rfl : called = side := on
      rw [empty, Pull.pull_nil] at served
      exact served.1
    · refine ih ?_ later
      by_cases same : called = side
      · subst same
        rw [empty, Pull.pull_nil] at served
        exact served.2
      · rw [left_serve_of_ne c way (Ne.symm same), empty]

/-- A side that has told its end brings nothing from then on. -/
theorem events_exhausted (c : Cursor) (calls : List Call) :
    (c.events calls).Pairwise fun e later =>
      later.side = e.side → Pull.Exhausts e.way e.brought → later.brought = .ok [] := by
  induction calls generalizing c with
  | nil => exact List.Pairwise.nil
  | cons call calls ih =>
    obtain ⟨called, way⟩ := call
    refine List.pairwise_cons.2 ⟨fun later hl on ends => ?_, ih _⟩
    obtain ⟨brought, rest⟩ := c.serve_eq called way
    have empty : (c.serve (called, way)).2.left called = [] := by
      rw [rest]
      refine Pull.pull_exhausts Element.check ?_
      rwa [← brought]
    exact brought_of_left_nil empty hl on

/-- **Nothing is lost, repeated or mixed up**, however the calls on the two sides follow each
other. What the calls on a side consumed and what is left is the side's list; a call accounts for
what it consumed by what it brings; the calls of a side go as if there were no others, and no call
changes the other side; as much is left as was not consumed; and a side that has told its end stays
at its end. -/
theorem events_accounted (nodes : List Node) (relations : List Relation) (calls : List Call) :
    let c : Cursor := ⟨nodes, relations⟩
    let last := c.afterCalls calls
    (nodes.map Element.node = consumedOn .nodes (c.events calls) ++ last.nodes.map Element.node ∧
      relations.map Element.relation =
        consumedOn .relations (c.events calls) ++ last.relations.map Element.relation) ∧
    (∀ e ∈ c.events calls, Pull.Accounts Element.check e.way e.brought e.consumed) ∧
    (∀ side, (c.events calls).filter (·.side = side) = c.events (calls.filter (·.1 = side))) ∧
    (∀ side way other, other ≠ side → (last.serve (side, way)).2.left other = last.left other) ∧
    (last.remaining.1 + (consumedOn .nodes (c.events calls)).length = nodes.length ∧
      last.remaining.2 + (consumedOn .relations (c.events calls)).length = relations.length) ∧
    (c.events calls).Pairwise fun e later =>
      later.side = e.side → Pull.Exhausts e.way e.brought → later.brought = .ok [] := by
  intro c last
  have onNodes : nodes.map Element.node = consumedOn .nodes (c.events calls) ++ last.nodes.map Element.node :=
    c.left_afterCalls calls .nodes
  have onRelations : relations.map Element.relation =
      consumedOn .relations (c.events calls) ++ last.relations.map Element.relation :=
    c.left_afterCalls calls .relations
  have nodeCount := congrArg List.length onNodes
  have relationCount := congrArg List.length onRelations
  simp only [List.length_map, List.length_append] at nodeCount relationCount
  refine ⟨⟨onNodes, onRelations⟩, fun e => accounts_of_mem_events, c.filter_events calls,
    fun side way other => left_serve_of_ne last way, ⟨?_, ?_⟩, c.events_exhausted calls⟩
  · rw [remaining]
    omega
  · rw [remaining]
    omega

end Cursor

end MetaGraph

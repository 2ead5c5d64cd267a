/-
Statements of sheets that hold the rows of nodes or relations. The reserved
columns come first, so each row tells its own element, and the other columns
set what the attributes of the element say. A value that should stand bare and
cannot ends the making of statements, and nothing else does.
-/
import MetaGraph.Cypher.Sheet
import MetaGraph.Proofs.KeyMap

namespace MetaGraph.Cypher

/-! ## Attributes as properties -/

/-- An attribute that can be published: bare values are literals or not given. -/
def Fit (a : String × Json) : Prop :=
  (Text.dropTail? unquotedMark a.1).isSome → a.2.cellText = "" ∨ isLiteral a.2.cellText

instance (a : String × Json) : Decidable (Fit a) := inferInstanceAs (Decidable (_ → _))

/-- What an attribute sets: a quoted value, or a bare one if it is given. -/
def property? (a : String × Json) : Option Assignment :=
  match Text.dropTail? unquotedMark a.1 with
  | none => some ⟨a.1, .quoted a.2.cellText⟩
  | some plain =>
    if a.2.cellText = "" then none else some ⟨plain, .bare (Text.trim a.2.cellText)⟩

/-- All that an element sets, the tag of the run last. -/
def properties (attributes : KeyMap Json) (tag : String) : List Assignment :=
  attributes.filterMap property? ++ [Sheet.tagAssignment tag]

/-- The statement of a node. -/
def nodeStatement (tag : String) (n : Node) : Statement :=
  .node ⟨n.label, n.key⟩ (properties n.attributes tag)

/-- The statement of a relation. -/
def relationStatement (tag : String) (r : Relation) : Statement :=
  .relation ⟨r.startLabel, r.startKey⟩ ⟨r.endLabel, r.endKey⟩ r.kind r.reverseKind
    (properties r.attributes tag)

/-! ## Results that depend on attributes -/

/-- The result is the value if all attributes are fit, and otherwise tells one that is not. -/
structure Settles {α : Type} (attributes : List (String × Json)) (value : α)
    (result : Except PublishError α) : Prop where
  ok : (∀ a ∈ attributes, Fit a) → result = .ok value
  error : (∃ a ∈ attributes, ¬ Fit a) → ∃ a ∈ attributes, ¬ Fit a ∧
    ∃ path, result = .error (.invalidUnquotedValue a.1 a.2.cellText path)

namespace Settles

variable {α β : Type} {as bs : List (String × Json)} {v : α} {w : β}

theorem done (v : α) : Settles [] v (.ok v) := ⟨fun _ => rfl, fun ⟨_, h, _⟩ => nomatch h⟩

theorem congr {r : Except PublishError α} (h : Settles as v r) (same : ∀ a, a ∈ as ↔ a ∈ bs) :
    Settles bs v r := by
  refine ⟨fun fit => h.ok fun a ha => fit a ((same a).1 ha), fun ⟨a, ha, bad⟩ => ?_⟩
  obtain ⟨a, ha, hr⟩ := h.error ⟨a, (same a).2 ha, bad⟩
  exact ⟨a, (same a).1 ha, hr⟩

theorem bind {r : Except PublishError α} {k : α → Except PublishError β} (h : Settles as v r)
    (hk : Settles bs w (k v)) : Settles (as ++ bs) w (r >>= k) := by
  constructor
  · intro fit
    rw [h.ok fun a ha => fit a (List.mem_append_left bs ha)]
    exact hk.ok fun a ha => fit a (List.mem_append_right as ha)
  · intro unfit
    by_cases first : ∃ a ∈ as, ¬ Fit a
    · obtain ⟨a, ha, bad, path, hr⟩ := h.error first
      exact ⟨a, List.mem_append_left bs ha, bad, path, by rw [hr]; rfl⟩
    · simp only [not_exists, not_and, Decidable.not_not] at first
      obtain ⟨a, ha, bad⟩ := unfit
      have second := (List.mem_append.1 ha).resolve_left fun ha => bad (first a ha)
      obtain ⟨a, ha, bad, path, hr⟩ := hk.error ⟨a, second, bad⟩
      exact ⟨a, List.mem_append_right as ha, bad, path, by rw [h.ok first]; exact hr⟩

theorem map {r : Except PublishError α} (h : Settles as v r) (f : α → β) :
    Settles as (f v) (r >>= fun x => .ok (f x)) := by
  rw [← List.append_nil as]
  exact h.bind (done (f v))

theorem mapM {γ : Type} {f : γ → Except PublishError α} {parts : γ → List (String × Json)}
    {value : γ → α} {xs : List γ} (h : ∀ x ∈ xs, Settles (parts x) (value x) (f x)) :
    Settles (xs.flatMap parts) (xs.map value) (xs.mapM f) := by
  induction xs with
  | nil => exact done []
  | cons x xs ih =>
    rw [List.mapM_cons, List.flatMap_cons, List.map_cons]
    have later := ih fun y hy => h y (List.mem_cons_of_mem x hy)
    exact (h x List.mem_cons_self).bind (later.map (value x :: ·))

end Settles

/-! ## Rows -/

namespace Sheet

variable {sheet : Sheet}

theorem settles_assignment? (sheet : Sheet) (a : String × Json) :
    Settles [a] (property? a) (sheet.assignment? a.1 a.2.cellText) := by
  unfold property? assignment?
  cases hm : Text.dropTail? unquotedMark a.1 with
  | none =>
    refine ⟨fun _ => rfl, ?_⟩
    simp [Fit, hm]
  | some plain =>
    dsimp only
    by_cases empty : a.2.cellText = ""
    · simp only [if_pos empty]
      refine ⟨fun _ => rfl, ?_⟩
      simp [Fit, empty]
    · simp only [if_neg empty]
      by_cases literal : isLiteral a.2.cellText
      · simp only [if_pos literal]
        refine ⟨fun _ => rfl, ?_⟩
        simp [Fit, literal]
      · simp only [if_neg literal]
        refine ⟨?_, fun _ => ⟨a, List.mem_singleton_self a, ?_, sheet.path, rfl⟩⟩
        · simp [Fit, hm, empty, literal]
        · simp [Fit, hm, empty, literal]

/-- Reserved columns set nothing. -/
theorem assignments_reserved {reserved : List Nat} {back : List (String × String)} :
    ∀ {front : List (String × String)} {i : Nat}, (∀ j, i ≤ j → j < i + front.length → j ∈ reserved) →
      sheet.assignments reserved i (front ++ back) = sheet.assignments reserved (i + front.length) back
  | [], _, _ => rfl
  | (name, cell) :: front, i, h => by
    have here : reserved.contains i = true := by
      rw [List.contains_iff_mem]
      exact h i (Nat.le_refl i) (by simp)
    rw [List.cons_append, assignments, if_pos here, assignments_reserved, List.length_cons,
      Nat.add_assoc, Nat.add_comm 1]
    intro j hj hl
    exact h j (by omega) (by rw [List.length_cons]; omega)

theorem settles_assignments {reserved : List Nat} :
    ∀ (attributes : KeyMap Json) (i : Nat), (∀ j ∈ reserved, j < i) →
      Settles attributes (attributes.filterMap property?)
        (sheet.assignments reserved i (attributes.map fun a => (a.1, a.2.cellText)))
  | [], _, _ => .done []
  | a :: rest, i, h => by
    have here : reserved.contains i ≠ true := by
      rw [ne_eq, List.contains_iff_mem]
      intro hm
      exact Nat.lt_irrefl i (h i hm)
    have later := settles_assignments rest (i + 1) fun j hj => Nat.lt_succ_of_lt (h j hj)
    have both := (sheet.settles_assignment? a).bind
      (k := fun x => sheet.assignments reserved (i + 1) _ >>= fun y => .ok (x.toList ++ y))
      (later.map ((property? a).toList ++ ·))
    have value : (a :: rest).filterMap property? = (property? a).toList ++ rest.filterMap property? := by
      rw [List.filterMap_cons]
      cases property? a <;> rfl
    rw [List.map_cons, assignments, if_neg here, value]
    exact both

/-- The columns of a row with the cells in them. -/
theorem zip_columns_cells (r : Row) : r.columns.zip r.cells = r.map fun a => (a.1, a.2.cellText) :=
  List.zip_map'

/-- A row sets what the attributes say that come after the reserved columns. -/
theorem settles_sets {front : Row} {attributes : KeyMap Json} {tag : String}
    (h : sheet.header = Row.columns (front ++ attributes)) :
    Settles attributes (properties attributes tag)
      (sheet.sets (List.range front.length) tag (Row.cells (front ++ attributes))) := by
  rw [sets, h, zip_columns_cells, List.map_append, assignments_reserved]
  · exact (settles_assignments attributes _ (by simp)).map (· ++ [tagAssignment tag])
  · intro j _ hj
    simpa using hj

/-! ## Sheets of nodes and relations -/

theorem settles_mapRows {α : Type} {f : List String → Except PublishError Statement}
    {row : α → Row} {parts : α → List (String × Json)} {statement : α → Statement} {xs : List α}
    (hr : sheet.rows = xs.map fun x => (row x).cells) (hf : sheet.fault = none)
    (h : ∀ x ∈ xs, Settles (parts x) (statement x) (f (row x).cells)) :
    Settles (xs.flatMap parts) (xs.map statement) (sheet.mapRows f) := by
  rw [mapRows, hr, hf, List.mapM_map]
  exact (Settles.mapM h).map id

/-- A sheet of nodes makes a statement for each of them. -/
theorem settles_nodes {tag : String} {ns : List Node} (given : ns ≠ [])
    (hh : ∀ n ∈ ns, (Neo4j.nodeRow n).columns = sheet.header)
    (hr : sheet.rows = ns.map fun n => (Neo4j.nodeRow n).cells) (hf : sheet.fault = none) :
    Settles (ns.flatMap (·.attributes)) (ns.map (nodeStatement tag)) (sheet.nodes tag) := by
  obtain ⟨first, rest, rfl⟩ := List.exists_cons_of_ne_nil given
  have header := hh first List.mem_cons_self
  have label : sheet.column Neo4j.labelColumn = .ok 0 := by
    rw [column, ← header]
    rfl
  have key : sheet.column Neo4j.keyColumn = .ok 1 := by
    rw [column, ← header]
    rfl
  rw [nodes, label, key]
  refine settles_mapRows hr hf fun n hn => ?_
  exact (settles_sets (hh n hn).symm).map fun sets => Statement.node ⟨n.label, n.key⟩ sets

/-- A sheet of relations makes a statement for each of them. -/
theorem settles_relations {tag : String} {rs : List Relation} (given : rs ≠ [])
    (hh : ∀ r ∈ rs, (Neo4j.relationRow r).columns = sheet.header)
    (hr : sheet.rows = rs.map fun r => (Neo4j.relationRow r).cells) (hf : sheet.fault = none) :
    Settles (rs.flatMap (·.attributes)) (rs.map (relationStatement tag)) (sheet.relations tag) := by
  obtain ⟨first, rest, rfl⟩ := List.exists_cons_of_ne_nil given
  have header := hh first List.mem_cons_self
  have reserved : Neo4j.relationColumns.mapM sheet.column = .ok [0, 1, 2, 3, 4, 5] := by
    unfold column
    rw [← header]
    rfl
  rw [relations, reserved]
  refine settles_mapRows hr hf fun r hr => ?_
  exact (settles_sets (hh r hr).symm).map fun sets =>
    Statement.relation ⟨r.startLabel, r.startKey⟩ ⟨r.endLabel, r.endKey⟩ r.kind r.reverseKind sets

end Sheet

/-! ## Labels -/

theorem nodup_labels (statements : List Statement) : (labels statements).Nodup := by
  rw [labels, KeyMap.ofList_eq]
  exact (KeyMap.sorted_extend .nil _).nodup_keys

theorem mem_labels {statements : List Statement} {l : String} :
    l ∈ labels statements ↔ ∃ st ∈ statements, st.nodeLabel? = some l := by
  rw [labels, KeyMap.ofList_eq, KeyMap.mem_keys_extend]
  simp

end MetaGraph.Cypher

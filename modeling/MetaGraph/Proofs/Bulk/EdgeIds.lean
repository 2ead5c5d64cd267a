/-
The ids of Neptune's edges. An id joins the two ends and the type of an edge
with underscores, which all of them may hold, so different edges can share
one. They do exactly where a part of one edge runs on over an underscore into
what follows it in the other. Where no key holds an underscore, an edge has
an id of its own.
-/
import MetaGraph.Bulk.Neptune
import MetaGraph.Model.Badge
import MetaGraph.Proofs.Graph.Validity
import MetaGraph.Proofs.Text.Cuts

namespace MetaGraph

/-! ## Texts that are joined -/

/-- The text `front'` goes on where `front` ends: over the underscore and through the beginning
of `back`, up to the underscore where `back'` begins. -/
def GoesOn (front back front' back' : String) : Prop :=
  ∃ between, front' = front ++ "_" ++ between ∧ back = between ++ "_" ++ back'

theorem beginsOnce_underscore : Text.BeginsOnce "_" := ⟨'_', [], rfl, List.not_mem_nil⟩

theorem joined_eq_iff {front back front' back' : String} : front ++ "_" ++ back = front' ++ "_" ++ back' ↔
    front = front' ∧ back = back' ∨ GoesOn front back front' back' ∨ GoesOn front' back' front back :=
  Text.joined_eq_iff beginsOnce_underscore

theorem GoesOn.mem {front back front' back' : String} (h : GoesOn front back front' back') :
    '_' ∈ front'.toList := by
  obtain ⟨between, rfl, -⟩ := h
  simp

theorem GoesOn.ne {front back front' back' : String} (h : GoesOn front back front' back') :
    front ≠ front' := Text.RunsPast.ne beginsOnce_underscore h

/-! ## Edges -/

/-- A directed edge, by the keys of its ends and its type. -/
structure Edge where
  start : String
  target : String
  kind : String
deriving DecidableEq, Repr

namespace Edge

/-- The ends and the type of an edge in one text. -/
def joined (e : Edge) : String := e.start ++ "_" ++ e.target ++ "_" ++ e.kind

/-- The start of the second edge goes on into what follows the start of the first; or the starts
are the same, and its target goes on into the type of the first. -/
def RunsInto (e₁ e₂ : Edge) : Prop :=
  GoesOn e₁.start (e₁.target ++ "_" ++ e₁.kind) e₂.start (e₂.target ++ "_" ++ e₂.kind) ∨
    e₁.start = e₂.start ∧ GoesOn e₁.target e₁.kind e₂.target e₂.kind

/-- Two edges are joined to one text exactly if they are the same or one runs into the other. -/
theorem joined_eq_joined_iff {e₁ e₂ : Edge} :
    e₁.joined = e₂.joined ↔ e₁ = e₂ ∨ e₁.RunsInto e₂ ∨ e₂.RunsInto e₁ := by
  have cut (e : Edge) : e.joined = e.start ++ "_" ++ (e.target ++ "_" ++ e.kind) := by
    simp only [joined, String.append_assoc]
  have parts : e₁ = e₂ ↔ e₁.start = e₂.start ∧ e₁.target = e₂.target ∧ e₁.kind = e₂.kind := by
    cases e₁
    cases e₂
    exact Edge.mk.injEq .. ▸ Iff.rfl
  rw [cut, cut, joined_eq_iff, joined_eq_iff, parts, RunsInto, RunsInto, eq_comm (a := e₂.start)]
  tauto

theorem RunsInto.ne {e₁ e₂ : Edge} (h : e₁.RunsInto e₂) : e₁ ≠ e₂ := by
  rintro rfl
  rcases h with goes | ⟨-, goes⟩ <;> exact goes.ne rfl

theorem RunsInto.mem {e₁ e₂ : Edge} (h : e₁.RunsInto e₂) :
    '_' ∈ e₂.start.toList ∨ '_' ∈ e₂.target.toList := by
  rcases h with goes | ⟨-, goes⟩
  · exact .inl goes.mem
  · exact .inr goes.mem

end Edge

/-! ## Rows -/

namespace Row

/-- The cell in a column; empty if there is none. -/
def cell (row : Row) (column : String) : String := ((row.lookup column).map Json.cellText).getD ""

/-- The edge that a row is of. -/
def edge (row : Row) : Edge := ⟨row.cell "~from", row.cell "~to", row.cell "~label"⟩

end Row

namespace Neptune

/-- The rows of all edges of the relations. -/
def edgeRows (rs : List Relation) : List Row := rs.flatMap relationRows

/-- No row has the id of another edge than its own. -/
def OwnIds (rows : List Row) : Prop :=
  ∀ row₁ ∈ rows, ∀ row₂ ∈ rows, row₁.cell "~id" = row₂.cell "~id" → row₁.edge = row₂.edge

instance (rows : List Row) : Decidable (OwnIds rows) :=
  inferInstanceAs (Decidable (∀ row₁ ∈ rows, ∀ row₂ ∈ rows, _ → _))

variable {rs : List Relation} {row row₁ row₂ : Row}

/-- The id of a row joins what the row tells of its edge. -/
theorem cell_id (h : row ∈ edgeRows rs) : row.cell "~id" = row.edge.joined := by
  obtain ⟨r, -, h⟩ := List.mem_flatMap.1 h
  rcases List.mem_pair.1 h with rfl | rfl <;> rfl

/-- The ends of an edge are those of its relation, in one order or the other. -/
theorem ends_edge (h : row ∈ edgeRows rs) : ∃ r ∈ rs,
    row.edge.start = r.startKey ∧ row.edge.target = r.endKey ∨
    row.edge.start = r.endKey ∧ row.edge.target = r.startKey := by
  obtain ⟨r, hr, h⟩ := List.mem_flatMap.1 h
  rcases List.mem_pair.1 h with rfl | rfl
  · exact ⟨r, hr, .inl ⟨rfl, rfl⟩⟩
  · exact ⟨r, hr, .inr ⟨rfl, rfl⟩⟩

theorem cell_id_eq_iff (h₁ : row₁ ∈ edgeRows rs) (h₂ : row₂ ∈ edgeRows rs) :
    row₁.cell "~id" = row₂.cell "~id" ↔
      row₁.edge = row₂.edge ∨ row₁.edge.RunsInto row₂.edge ∨ row₂.edge.RunsInto row₁.edge := by
  rw [cell_id h₁, cell_id h₂, Edge.joined_eq_joined_iff]

theorem ownIds_iff : OwnIds (edgeRows rs) ↔
    ∀ row₁ ∈ edgeRows rs, ∀ row₂ ∈ edgeRows rs, ¬ row₁.edge.RunsInto row₂.edge := by
  constructor
  · intro own row₁ h₁ row₂ h₂ runs
    exact runs.ne (own row₁ h₁ row₂ h₂ ((cell_id_eq_iff h₁ h₂).2 (.inr (.inl runs))))
  · intro apart row₁ h₁ row₂ h₂ same
    rcases (cell_id_eq_iff h₁ h₂).1 same with same | runs | runs
    · exact same
    · exact absurd runs (apart row₁ h₁ row₂ h₂)
    · exact absurd runs (apart row₂ h₂ row₁ h₁)

/-- Without underscores in the keys no edge runs into another. -/
theorem not_runsInto (plain : ∀ r ∈ rs, '_' ∉ r.startKey.toList ∧ '_' ∉ r.endKey.toList)
    (h₂ : row₂ ∈ edgeRows rs) : ¬ row₁.edge.RunsInto row₂.edge := by
  intro runs
  obtain ⟨r, hr, ⟨start, target⟩ | ⟨start, target⟩⟩ := ends_edge h₂
  · exact runs.mem.elim (start ▸ (plain r hr).1) (target ▸ (plain r hr).2)
  · exact runs.mem.elim (start ▸ (plain r hr).2) (target ▸ (plain r hr).1)

/-- **When edges have ids of their own.** Of any relations, two edge rows have the same id exactly
if they are of the same edge or one edge runs into the other. So no row has the id of another
edge exactly if no edge runs into another, and that holds where no key has an underscore. -/
theorem edgeIds_eq_iff (rs : List Relation) :
    (∀ row₁ ∈ edgeRows rs, ∀ row₂ ∈ edgeRows rs, (row₁.cell "~id" = row₂.cell "~id" ↔
      row₁.edge = row₂.edge ∨ row₁.edge.RunsInto row₂.edge ∨ row₂.edge.RunsInto row₁.edge)) ∧
    (OwnIds (edgeRows rs) ↔
      ∀ row₁ ∈ edgeRows rs, ∀ row₂ ∈ edgeRows rs, ¬ row₁.edge.RunsInto row₂.edge) ∧
    ((∀ r ∈ rs, '_' ∉ r.startKey.toList ∧ '_' ∉ r.endKey.toList) → OwnIds (edgeRows rs)) :=
  ⟨fun _ h₁ _ h₂ => cell_id_eq_iff h₁ h₂, ownIds_iff,
    fun plain => ownIds_iff.2 fun _ _ _ h₂ => not_runsInto plain h₂⟩

-- Even the two edges of one relation can share an id.
example : ¬ OwnIds (relationRows ⟨"Table", "a", "Table", "a_a", "LINKED", "LINKED", []⟩) := by
  decide +kernel

/-! ## Badges of tables -/

/-- The relation of a table to a badge. -/
def badged (table badge : String) : Relation :=
  (⟨"Table", "hive://gold.core/" ++ table, []⟩ : BadgeSet).relation ⟨badge, "data"⟩

/-- One badge on two tables. -/
theorem edgeIds_eq_iff_oneBadge :
    (∀ r ∈ [badged "users" "pii", badged "orders" "pii"], '_' ∉ r.startKey.toList ∧ '_' ∉ r.endKey.toList) ∧
    OwnIds (edgeRows [badged "users" "pii", badged "orders" "pii"]) ∧
    ((edgeRow (badged "users" "pii")).cell "~id" = (edgeRow (badged "orders" "pii")).cell "~id" ↔
      (edgeRow (badged "users" "pii")).edge = (edgeRow (badged "orders" "pii")).edge ∨
      (edgeRow (badged "users" "pii")).edge.RunsInto (edgeRow (badged "orders" "pii")).edge ∨
      (edgeRow (badged "orders" "pii")).edge.RunsInto (edgeRow (badged "users" "pii")).edge) := by
  have plain : ∀ r ∈ [badged "users" "pii", badged "orders" "pii"],
      '_' ∉ r.startKey.toList ∧ '_' ∉ r.endKey.toList := by
    decide +kernel
  have ids := edgeIds_eq_iff [badged "users" "pii", badged "orders" "pii"]
  exact ⟨plain, ids.2.2 plain, ids.1 _ (by decide +kernel) _ (by decide +kernel)⟩

/-- The key of one table goes on into the badge of the other: both relations are fit to be
written, and two of their edges, which are different, share an id. -/
theorem edgeId_shared :
    (badged "users" "core_pii").Valid ∧ (badged "users_core" "pii").Valid ∧
    ¬ OwnIds (edgeRows [badged "users" "core_pii", badged "users_core" "pii"]) ∧
    ∃ row₁ ∈ relationRows (badged "users" "core_pii"), ∃ row₂ ∈ relationRows (badged "users_core" "pii"),
      row₁.cell "~id" = "hive://gold.core/users_core_pii_HAS_BADGE" ∧
      row₂.cell "~id" = "hive://gold.core/users_core_pii_HAS_BADGE" ∧
      row₁.edge = ⟨"hive://gold.core/users", "core_pii", "HAS_BADGE"⟩ ∧
      row₂.edge = ⟨"hive://gold.core/users_core", "pii", "HAS_BADGE"⟩ := by
  decide +kernel

end Neptune

end MetaGraph

/-
Finite maps from texts to values, kept as lists in increasing order of their
keys: the order in which records, attributes and headers are shown and
written. A key stands in a map at most once.
-/

namespace MetaGraph

/-- A map from texts, as its entries in the order of their keys. -/
abbrev KeyMap (α : Type u) := List (String × α)

namespace KeyMap

variable {α : Type u}

/-- The keys stand in strictly increasing order. -/
def Sorted (m : KeyMap α) : Prop := m.Pairwise fun a b => a.1 < b.1

def get? (m : KeyMap α) (key : String) : Option α := List.lookup key m

def contains (m : KeyMap α) (key : String) : Bool := (m.get? key).isSome

/-- The map with `value` at `key`, in place of what stood there. -/
def insert (key : String) (value : α) : KeyMap α → KeyMap α
  | [] => [(key, value)]
  | (k, v) :: rest =>
    if key < k then (key, value) :: (k, v) :: rest
    else if key = k then (key, value) :: rest
    else (k, v) :: insert key value rest

/-- The map without `key`. -/
def erase (m : KeyMap α) (key : String) : KeyMap α := m.filter fun entry => entry.1 != key

/-- The entries inserted one after the other: of two with one key the later counts. -/
def ofList (entries : List (String × α)) : KeyMap α :=
  entries.foldl (fun m entry => m.insert entry.1 entry.2) []

/-- The first map overlaid by the second. -/
def extend (m : KeyMap α) (upper : KeyMap α) : KeyMap α :=
  upper.foldl (fun m entry => m.insert entry.1 entry.2) m

theorem get?_insert_self (m : KeyMap α) (key : String) (value : α) :
    (m.insert key value).get? key = some value := by
  induction m with
  | nil => simp [insert, get?]
  | cons entry rest ih =>
    obtain ⟨k, v⟩ := entry
    unfold insert
    split
    · simp [get?]
    · split
      · simp [get?]
      · rename_i hne
        have : (key == k) = false := by simpa using hne
        simp only [get?, List.lookup_cons, this]
        exact ih

theorem get?_insert_other (m : KeyMap α) {key other : String} (value : α) (h : other ≠ key) :
    (m.insert key value).get? other = m.get? other := by
  have hb : (other == key) = false := by simpa using h
  induction m with
  | nil => simp [insert, get?, List.lookup_cons, hb]
  | cons entry rest ih =>
    obtain ⟨k, v⟩ := entry
    unfold insert
    split
    · simp [get?, List.lookup_cons, hb]
    · split
      · rename_i hk
        subst hk
        simp [get?, List.lookup_cons, hb]
      · simp only [get?, List.lookup_cons]
        split
        · rfl
        · exact ih

theorem mem_insert {m : KeyMap α} {key : String} {value : α} {entry : String × α}
    (h : entry ∈ m.insert key value) : entry = (key, value) ∨ entry ∈ m := by
  induction m with
  | nil => simpa [insert] using h
  | cons head rest ih =>
    obtain ⟨k, v⟩ := head
    unfold insert at h
    split at h
    · simpa using h
    · split at h
      · rcases List.mem_cons.1 h with h | h
        · exact .inl h
        · exact .inr (List.mem_cons_of_mem _ h)
      · rcases List.mem_cons.1 h with h | h
        · exact .inr (h ▸ List.mem_cons_self)
        · exact (ih h).imp id (List.mem_cons_of_mem _)

end KeyMap

end MetaGraph

/-
Maps from texts keep their entries in the order of the keys, so no key stands
in a map twice.
-/
import Mathlib.Data.List.Perm.Subperm
import MetaGraph.KeyMap

namespace MetaGraph.KeyMap

variable {α : Type u}

theorem mem_keys_insert {m : KeyMap α} {key : String} {value : α} {k : String} :
    k ∈ (m.insert key value).map Prod.fst ↔ k = key ∨ k ∈ m.map Prod.fst := by
  induction m with
  | nil => simp [insert]
  | cons entry rest ih =>
    obtain ⟨k', v⟩ := entry
    rw [insert]
    split
    · simp
    · split
      · rename_i same
        simp [same]
      · rw [List.map_cons, List.mem_cons, ih, List.map_cons, List.mem_cons, or_left_comm]

theorem sorted_insert {m : KeyMap α} (h : m.Sorted) (key : String) (value : α) :
    (m.insert key value).Sorted := by
  induction m with
  | nil => exact List.pairwise_singleton _ _
  | cons entry rest ih =>
    obtain ⟨k, v⟩ := entry
    obtain ⟨first, rest'⟩ := List.pairwise_cons.1 h
    rw [insert]
    split
    · rename_i lt
      refine List.pairwise_cons.2 ⟨fun e he => ?_, h⟩
      rcases List.mem_cons.1 he with rfl | he
      · exact lt
      · exact String.lt_trans lt (first e he)
    · split
      · rename_i same
        exact List.pairwise_cons.2 ⟨fun e he => same ▸ first e he, rest'⟩
      · rename_i ge ne
        refine List.pairwise_cons.2 ⟨fun e he => ?_, ih rest'⟩
        rcases mem_insert he with rfl | he
        · refine Decidable.byContradiction fun ge' => ne ?_
          exact String.le_antisymm (String.not_lt.1 ge') (String.not_lt.1 ge)
        · exact first e he

theorem Sorted.nodup_keys {m : KeyMap α} (h : m.Sorted) : (m.map Prod.fst).Nodup := by
  rw [List.nodup_iff_pairwise_ne, List.pairwise_map]
  refine h.imp fun {a b} lt same => ?_
  rw [same] at lt
  exact String.lt_irrefl _ lt

theorem sorted_extend {m : KeyMap α} (h : m.Sorted) (upper : KeyMap α) : (m.extend upper).Sorted := by
  induction upper generalizing m with
  | nil => exact h
  | cons entry rest ih => exact ih (sorted_insert h entry.1 entry.2)

theorem mem_keys_extend {m upper : KeyMap α} {k : String} :
    k ∈ (m.extend upper).map Prod.fst ↔ k ∈ m.map Prod.fst ∨ k ∈ upper.map Prod.fst := by
  induction upper generalizing m with
  | nil => simp [extend]
  | cons entry rest ih =>
    have := ih (m := m.insert entry.1 entry.2)
    rw [mem_keys_insert] at this
    rw [List.map_cons, List.mem_cons, extend, List.foldl_cons]
    refine this.trans ?_
    rw [or_comm (a := k = entry.1), or_assoc]

theorem ofList_eq (entries : List (String × α)) : ofList entries = extend [] entries := rfl

theorem Sorted.get?_eq_some_iff {m : KeyMap α} (h : m.Sorted) {key : String} {value : α} :
    m.get? key = some value ↔ (key, value) ∈ m := by
  induction m with
  | nil => exact ⟨nofun, nofun⟩
  | cons entry rest ih =>
    obtain ⟨k, v⟩ := entry
    obtain ⟨first, rest'⟩ := List.pairwise_cons.1 h
    by_cases same : key = k
    · subst same
      have later : (key, value) ∉ rest := fun hm => String.lt_irrefl key (first (key, value) hm)
      simp [get?, later, eq_comm]
    · have hb : (key == k) = false := by simpa using same
      have step : get? ((k, v) :: rest) key = get? rest key := by simp [get?, List.lookup_cons, hb]
      rw [step, ih rest', List.mem_cons, Prod.mk.injEq]
      exact ⟨.inr, fun h => h.resolve_left fun h => same h.1⟩

/-- Maps in order that hold the same are the same. -/
theorem Sorted.ext {m m' : KeyMap α} (h : m.Sorted) (h' : m'.Sorted)
    (same : ∀ key, m.get? key = m'.get? key) : m = m' := by
  have members (entry : String × α) : entry ∈ m ↔ entry ∈ m' := by
    rw [← h.get?_eq_some_iff, ← h'.get?_eq_some_iff, same]
  clear same
  induction m generalizing m' with
  | nil => exact (List.eq_nil_iff_forall_not_mem.2 fun e he => nomatch (members e).2 he).symm
  | cons entry rest ih =>
    cases m' with
    | nil => exact nomatch (members entry).1 List.mem_cons_self
    | cons entry' rest' =>
      obtain ⟨first, hr⟩ := List.pairwise_cons.1 h
      obtain ⟨first', hr'⟩ := List.pairwise_cons.1 h'
      -- The first entry of a map is the least of all, so it is the first of the other map too.
      have heads : entry = entry' := by
        rcases List.mem_cons.1 ((members entry).1 List.mem_cons_self) with he | he
        · exact he
        · rcases List.mem_cons.1 ((members entry').2 List.mem_cons_self) with he' | he'
          · exact he'.symm
          · exact absurd (String.lt_trans (first _ he') (first' _ he)) (String.lt_irrefl _)
      subst heads
      refine congrArg (entry :: ·) (ih hr hr' fun e => ⟨fun he => ?_, fun he => ?_⟩)
      · refine (List.mem_cons.1 ((members e).1 (List.mem_cons_of_mem _ he))).resolve_left ?_
        rintro rfl
        exact String.lt_irrefl _ (first _ he)
      · refine (List.mem_cons.1 ((members e).2 (List.mem_cons_of_mem _ he))).resolve_left ?_
        rintro rfl
        exact String.lt_irrefl _ (first' _ he)

/-! ## Maps laid over others -/

/-- Of the entries of one key the last one counts. -/
theorem get?_extend (m upper : KeyMap α) (name : String) :
    (m.extend upper).get? name = (upper.reverse.lookup name <|> m.get? name) := by
  induction upper generalizing m with
  | nil => simp [extend]
  | cons entry rest ih =>
    obtain ⟨key, value⟩ := entry
    have step : m.extend ((key, value) :: rest) = (m.insert key value).extend rest := rfl
    rw [step, ih, List.reverse_cons, List.lookup_append]
    cases rest.reverse.lookup name with
    | some v => rfl
    | none =>
      by_cases h : name = key
      · subst h
        simp [get?_insert_self]
      · have hb : (name == key) = false := by simpa using h
        simp [get?_insert_other m value h, List.lookup_cons, hb]

theorem get?_eq_none_of_notMem {m : KeyMap α} {key : String} (h : key ∉ m.map Prod.fst) :
    m.get? key = none := by
  rw [get?, List.lookup_eq_none_iff]
  intro entry he
  rw [bne_iff_ne]
  rintro rfl
  exact h (List.mem_map_of_mem he)

theorem get?_extend_of_notMem (m : KeyMap α) {upper : KeyMap α} {name : String}
    (h : name ∉ upper.map Prod.fst) : (m.extend upper).get? name = m.get? name := by
  have none : get? upper.reverse name = none := get?_eq_none_of_notMem (by simpa using h)
  rw [get?] at none
  rw [get?_extend, none]
  rfl

/-- To lay the same over a map again changes nothing. -/
theorem extend_extend_self {m : KeyMap α} (h : m.Sorted) (upper : KeyMap α) :
    (m.extend upper).extend upper = m.extend upper := by
  refine (sorted_extend (sorted_extend h upper) upper).ext (sorted_extend h upper) fun key => ?_
  rw [get?_extend, get?_extend]
  cases upper.reverse.lookup key <;> rfl

/-- What a map in order holds at a key stands above what it is laid over. -/
theorem Sorted.get?_extend {upper : KeyMap α} (h : upper.Sorted) (m : KeyMap α) (key : String) :
    (m.extend upper).get? key = (upper.get? key <|> m.get? key) := by
  induction upper generalizing m with
  | nil => rfl
  | cons entry rest ih =>
    obtain ⟨k, v⟩ := entry
    obtain ⟨first, sorted⟩ := List.pairwise_cons.1 h
    refine (ih sorted (m.insert k v)).trans ?_
    by_cases same : key = k
    · subst same
      have later : get? rest key = none := get?_eq_none_of_notMem fun hm => by
        obtain ⟨e, he, rfl⟩ := List.mem_map.1 hm
        exact String.lt_irrefl _ (first e he)
      rw [later, get?_insert_self]
      simp [get?]
    · have hb : (key == k) = false := by simpa using same
      have head : get? ((k, v) :: rest) key = get? rest key := by simp [get?, List.lookup_cons, hb]
      rw [head, get?_insert_other m v same]

/-! ## The entries of some keys -/

section Filter

variable {p : String → Bool}

theorem filter_insert_of_not (m : KeyMap α) {key : String} (value : α) (h : p key = false) :
    (m.insert key value).filter (p ·.1) = m.filter (p ·.1) := by
  induction m with
  | nil => simp [insert, h]
  | cons entry rest ih =>
    obtain ⟨k, v⟩ := entry
    rw [insert]
    split
    · simp [h]
    · split
      · rename_i same
        subst same
        simp [h]
      · rw [List.filter_cons, List.filter_cons, ih]

/-- What has other keys than the upper map is kept as it is. -/
theorem filter_extend_of_not (m : KeyMap α) {upper : KeyMap α} (h : ∀ k ∈ upper.map Prod.fst, p k = false) :
    (m.extend upper).filter (p ·.1) = m.filter (p ·.1) := by
  induction upper generalizing m with
  | nil => rfl
  | cons entry rest ih =>
    rw [List.map_cons, List.forall_mem_cons] at h
    exact (ih (m.insert entry.1 entry.2) h.2).trans (filter_insert_of_not m entry.2 h.1)

theorem Sorted.get?_filter {m : KeyMap α} (h : m.Sorted) (key : String) :
    get? (m.filter (p ·.1)) key = if p key then m.get? key else none := by
  have sorted : Sorted (m.filter (p ·.1)) := List.Pairwise.filter _ h
  refine Option.ext fun value => ?_
  rw [sorted.get?_eq_some_iff, List.mem_filter, ← h.get?_eq_some_iff]
  cases p key <;> simp

/-- Where the upper map has all keys of a kind, it alone counts for them. -/
theorem filter_extend_of_covered {m upper : KeyMap α} (h : m.Sorted) (h' : upper.Sorted)
    (covered : ∀ k ∈ m.map Prod.fst, p k = true → k ∈ upper.map Prod.fst) :
    (m.extend upper).filter (p ·.1) = upper.filter (p ·.1) := by
  have sorted (m : KeyMap α) (h : m.Sorted) : Sorted (m.filter (p ·.1)) := List.Pairwise.filter _ h
  refine (sorted _ (sorted_extend h upper)).ext (sorted upper h') fun key => ?_
  rw [(sorted_extend h upper).get?_filter, h'.get?_filter]
  cases kind : p key with
  | false => rfl
  | true =>
    rw [h'.get?_extend]
    by_cases hm : key ∈ upper.map Prod.fst
    · obtain ⟨⟨_, value⟩, he, rfl⟩ := List.mem_map.1 hm
      rw [h'.get?_eq_some_iff.2 he]
      rfl
    · rw [get?_eq_none_of_notMem hm, get?_eq_none_of_notMem fun lower => hm (covered key lower kind)]
      rfl

/-- A key of a kind that the upper map lacks is there in addition to those that it has. -/
theorem length_filter_extend_lt {m upper : KeyMap α} (h : upper.Sorted) {key : String}
    (lower : key ∈ m.map Prod.fst) (kind : p key = true) (lacks : key ∉ upper.map Prod.fst) :
    (upper.filter (p ·.1)).length < ((m.extend upper).filter (p ·.1)).length := by
  have keys (m : KeyMap α) : (m.filter (p ·.1)).map Prod.fst = (m.map Prod.fst).filter p := by
    rw [List.filter_map]
    rfl
  have distinct : (key :: (upper.map Prod.fst).filter p).Nodup :=
    List.nodup_cons.2 ⟨fun hm => lacks (List.mem_filter.1 hm).1, h.nodup_keys.filter p⟩
  have there : key :: (upper.map Prod.fst).filter p ⊆ ((m.extend upper).map Prod.fst).filter p := by
    refine List.cons_subset.2 ⟨List.mem_filter.2 ⟨mem_keys_extend.2 (.inl lower), kind⟩, fun k hk => ?_⟩
    obtain ⟨hk, kind⟩ := List.mem_filter.1 hk
    exact List.mem_filter.2 ⟨mem_keys_extend.2 (.inr hk), kind⟩
  have longer := (distinct.subperm there).length_le
  rwa [List.length_cons, ← keys, ← keys, List.length_map, List.length_map] at longer

end Filter

end MetaGraph.KeyMap

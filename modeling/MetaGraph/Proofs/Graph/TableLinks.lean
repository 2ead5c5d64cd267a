/-
Which tables a dashboard is linked to. An identifier links the dashboard to
the address that it starts with, four words between fixed marks, and what
stands behind the last word is left out of the key. So the links name the
tables that the identifiers name if no identifier goes on behind an address.
-/
import Mathlib.Data.List.Forall2
import MetaGraph.Proofs.Except
import MetaGraph.Proofs.Run.Claimed

namespace MetaGraph

/-! ## Words at the front of a text -/

namespace TableAddress

/-- A text of one or more word characters. -/
def IsWord (w : String) : Prop := w ≠ "" ∧ ∀ c ∈ w.toList, Text.isWord c = true

/-- A text that no word at its front reaches into. -/
def EndsWord (cs : List Char) : Prop := ∀ c ∈ cs.head?, Text.isWord c = false

theorem endsWord_mark {c : Char} (h : c = ':' ∨ c = '.' ∨ c = '/') (cs : List Char) : EndsWord (c :: cs) := by
  rintro _ ⟨⟩
  rcases h with rfl | rfl | rfl <;> exact Text.isWord_ascii (by decide)

theorem endsWord_dropWhile (cs : List Char) : EndsWord (cs.dropWhile Text.isWord) := by
  intro c hc
  have stop := List.head?_dropWhile_not Text.isWord cs
  rw [Option.mem_def.1 hc] at stop
  exact stop

/-- A word is read as far as it goes. -/
theorem word?_eq_some_iff {cs rest : List Char} {w : String} :
    word? cs = some (w, rest) ↔ IsWord w ∧ cs = w.toList ++ rest ∧ EndsWord rest := by
  constructor
  · intro h
    have whole := List.takeWhile_append_dropWhile (p := Text.isWord) (l := cs)
    unfold word? at h
    split at h
    · cases h
    rename_i given
    cases h
    refine ⟨⟨fun he => given (by simpa using congrArg String.toList he), fun c hc => ?_⟩, ?_,
      endsWord_dropWhile cs⟩
    · rw [String.toList_ofList] at hc
      exact List.all_eq_true.1 List.all_takeWhile c hc
    · rw [String.toList_ofList, whole]
  · rintro ⟨⟨given, word⟩, rfl, stops⟩
    have given : w.toList ≠ [] := fun he => given (String.toList_inj.1 he)
    have taken : rest.takeWhile Text.isWord = [] ∧ rest.dropWhile Text.isWord = rest := by
      cases rest with
      | nil => exact ⟨rfl, rfl⟩
      | cons c cs => simp [stops c rfl]
    rw [word?, List.takeWhile_append_of_pos word, List.dropWhile_append_of_pos word, taken.1, taken.2,
      List.append_nil]
    split
    · exact absurd ‹_› given
    · rw [String.ofList_toList]

theorem after?_eq_some_iff {mark cs rest : List Char} : after? mark cs = some rest ↔ cs = mark ++ rest := by
  unfold after?
  constructor
  · intro h
    split at h
    · rename_i front
      cases h
      calc cs = cs.take mark.length ++ cs.drop mark.length := (List.take_append_drop _ _).symm
        _ = mark ++ cs.drop mark.length := by rw [front]
    · cases h
  · rintro rfl
    simp

/-! ## Addresses at the front of an identifier -/

/-- All four parts of an address are words. -/
def Worded (a : TableAddress) : Prop := IsWord a.db ∧ IsWord a.cluster ∧ IsWord a.schema ∧ IsWord a.table

/-- An identifier starts with an address, and its last word goes no further. -/
def Starts (a : TableAddress) (id : String) : Prop :=
  a.Worded ∧ ∃ rest, id.toList = a.key.toList ++ rest ∧ EndsWord rest

/-- An identifier is an address from end to end. -/
def IsAddress (id : String) : Prop := ∃ a : TableAddress, a.Worded ∧ id = a.key

theorem key_toList (a : TableAddress) : a.key.toList = a.db.toList ++ ([':', '/', '/'] ++ (a.cluster.toList ++
    (['.'] ++ (a.schema.toList ++ (['/'] ++ a.table.toList))))) := by
  simp [key, tableKey]

theorem ofUri?_eq_some_iff {id : String} {a : TableAddress} : ofUri? id = some a ↔ a.Starts id := by
  simp only [ofUri?, Option.bind_eq_bind, Option.bind_eq_some_iff, Prod.exists, word?_eq_some_iff,
    after?_eq_some_iff]
  constructor
  · rintro ⟨db, _, ⟨hdb, eq, -⟩, _, rfl, cluster, _, ⟨hcluster, rfl, -⟩, _, rfl, schema, _,
      ⟨hschema, rfl, -⟩, _, rfl, table, rest, ⟨htable, rfl, stops⟩, made⟩
    cases made
    exact ⟨⟨hdb, hcluster, hschema, htable⟩, rest, by rw [eq, key_toList]; simp, stops⟩
  · rintro ⟨⟨hdb, hcluster, hschema, htable⟩, rest, eq, stops⟩
    rw [key_toList] at eq
    simp only [List.append_assoc] at eq
    -- Each mark stops the word in front of it.
    exact ⟨a.db, _, ⟨hdb, eq, endsWord_mark (.inl rfl) _⟩, _, rfl,
      a.cluster, _, ⟨hcluster, rfl, endsWord_mark (.inr (.inl rfl)) _⟩, _, rfl,
      a.schema, _, ⟨hschema, rfl, endsWord_mark (.inr (.inr rfl)) _⟩, _, rfl,
      a.table, rest, ⟨htable, rfl, stops⟩, rfl⟩

theorem ofUri?_eq_none_iff {id : String} : ofUri? id = none ↔ ∀ a : TableAddress, ¬ a.Starts id := by
  simp only [Option.eq_none_iff_forall_ne_some, Ne, ofUri?_eq_some_iff]

/-- An identifier starts with one address at most. -/
theorem Starts.unique {a b : TableAddress} {id : String} (h : a.Starts id) (h' : b.Starts id) : a = b :=
  Option.some.inj ((ofUri?_eq_some_iff.2 h).symm.trans (ofUri?_eq_some_iff.2 h'))

theorem Worded.starts_key {a : TableAddress} (h : a.Worded) : a.Starts a.key :=
  ⟨h, [], (List.append_nil _).symm, nofun⟩

/-- An identifier is an address if it is the one that it starts with. -/
theorem isAddress_iff {id : String} : IsAddress id ↔ ∃ a : TableAddress, a.Starts id ∧ id = a.key := by
  constructor
  · rintro ⟨a, worded, rfl⟩
    exact ⟨a, worded.starts_key, rfl⟩
  · rintro ⟨a, ⟨worded, -⟩, rfl⟩
    exact ⟨a, worded, rfl⟩

/-- Whether an identifier starts with an address can be decided by reading it. -/
instance (id : String) : Decidable (∃ a : TableAddress, a.Starts id) :=
  decidable_of_iff ((ofUri? id).isSome = true) (by simp [Option.isSome_iff_exists, ofUri?_eq_some_iff])

instance (id : String) : Decidable (IsAddress id) :=
  decidable_of_iff ((ofUri? id).map key = some id) (by
    rw [isAddress_iff, Option.map_eq_some_iff]
    exact exists_congr fun a => by rw [ofUri?_eq_some_iff, eq_comm (a := id)])

end TableAddress

/-! ## The links of a dashboard -/

namespace DashboardTable

/-- The link of a dashboard to the table with a key. -/
def link (t : DashboardTable) (key : String) : Relation :=
  ⟨"Dashboard", t.dashboardKey, "Table", key, "DASHBOARD_WITH_TABLE", "TABLE_OF_DASHBOARD", []⟩

/-- The links are those to the addresses that identifiers start with, one for each such identifier
and in their order. -/
theorem forall₂_relations (t : DashboardTable) :
    List.Forall₂ (fun id r => ∃ a : TableAddress, a.Starts id ∧ r = t.link a.key)
      (t.tableIds.filter fun id => ∃ a : TableAddress, a.Starts id) t.elements.relations := by
  unfold elements
  dsimp only
  induction t.tableIds with
  | nil => exact .nil
  | cons id ids ih =>
    cases ha : TableAddress.ofUri? id with
    | none =>
      have none := TableAddress.ofUri?_eq_none_iff.1 ha
      rwa [List.filterMap_cons_none ha, List.filter_cons_of_neg (by simpa using none)]
    | some a =>
      have starts := TableAddress.ofUri?_eq_some_iff.1 ha
      rw [List.filterMap_cons_some ha, List.map_cons, List.filter_cons_of_pos (by simpa using ⟨a, starts⟩)]
      exact .cons ⟨a, starts, rfl⟩ ih

/-- There is a link for each identifier that is an address, and maybe others. -/
theorem length_addresses_le (ids : List String) :
    (ids.filter (TableAddress.IsAddress ·)).length ≤ (ids.filterMap TableAddress.ofUri?).length := by
  rw [List.length_filterMap_eq_countP, ← List.countP_eq_length_filter]
  refine List.countP_mono_left fun id _ address => ?_
  obtain ⟨a, starts, -⟩ := TableAddress.isAddress_iff.1 (of_decide_eq_true address)
  rw [TableAddress.ofUri?_eq_some_iff.2 starts]
  rfl

/-- The keys of the links are the identifiers that are addresses if no identifier goes on behind an
address. -/
theorem keys_eq_addresses_iff (ids : List String) :
    (ids.filterMap TableAddress.ofUri?).map TableAddress.key = ids.filter (TableAddress.IsAddress ·) ↔
      ∀ id ∈ ids, ∀ a : TableAddress, a.Starts id → id = a.key := by
  induction ids with
  | nil => simp
  | cons id ids ih =>
    rw [List.forall_mem_cons, ← ih]
    cases ha : TableAddress.ofUri? id with
    | none =>
      have none := TableAddress.ofUri?_eq_none_iff.1 ha
      have other : ¬ TableAddress.IsAddress id := fun h =>
        let ⟨a, starts, _⟩ := TableAddress.isAddress_iff.1 h
        none a starts
      rw [List.filterMap_cons_none ha, List.filter_cons_of_neg (by simpa using other),
        and_iff_right fun a starts => absurd starts (none a)]
    | some a =>
      have starts := TableAddress.ofUri?_eq_some_iff.1 ha
      rw [List.filterMap_cons_some ha, List.map_cons]
      by_cases whole : id = a.key
      · have address := TableAddress.isAddress_iff.2 ⟨a, starts, whole⟩
        rw [List.filter_cons_of_pos (by simpa using address), ← whole, List.cons_inj_right,
          and_iff_right fun b starts' => whole.trans (congrArg _ (starts.unique starts'))]
      · have other : ¬ TableAddress.IsAddress id := fun h =>
          let ⟨b, starts', whole'⟩ := TableAddress.isAddress_iff.1 h
          whole (whole'.trans (congrArg _ (starts'.unique starts)))
        rw [List.filter_cons_of_neg (by simpa using other)]
        refine iff_of_false (fun same => ?_) fun h => whole (h.1 a starts)
        -- There would be a link more than there are addresses left.
        have fewer := length_addresses_le ids
        have length := congrArg List.length same
        rw [List.length_cons, List.length_map] at length
        omega

/-- The links are those to the identifiers that are addresses, and no others, if no identifier goes
on behind an address. -/
theorem relations_eq_iff (t : DashboardTable) :
    t.elements.relations = (t.tableIds.filter (TableAddress.IsAddress ·)).map t.link ↔
      ∀ id ∈ t.tableIds, ∀ a : TableAddress, a.Starts id → id = a.key := by
  have links : t.elements.relations =
      ((t.tableIds.filterMap TableAddress.ofUri?).map TableAddress.key).map t.link := by
    rw [List.map_map]
    rfl
  have distinct : ∀ k k', t.link k = t.link k' → k = k' := fun _ _ h => congrArg Relation.endKey h
  rw [links, List.map_inj_right distinct, keys_eq_addresses_iff]

end DashboardTable

namespace ModelKind

/-- **What a dashboard is linked to.** A record is bound to its identifiers, and the model emits no
nodes and one link for each identifier that starts with a table's address, in their order, to that
address. These are the links to the identifiers that are addresses from end to end exactly if no
identifier goes on behind an address. -/
theorem links_of_build {record : Record} {c c' : Claims} {m : Model}
    (h : dashboardTable.build record c = .ok (m, c')) :
    ∃ t, Field.ofRecord dashboardTable.name DashboardTable.shape record = .ok t ∧
      m.subject = .dashboardTable t ∧ m.elements.nodes = [] ∧
      List.Forall₂ (fun id r => ∃ a : TableAddress, a.Starts id ∧ r = t.link a.key)
        (t.tableIds.filter fun id => ∃ a : TableAddress, a.Starts id) m.elements.relations ∧
      (m.elements.relations = (t.tableIds.filter (TableAddress.IsAddress ·)).map t.link ↔
        ∀ id ∈ t.tableIds, ∀ a : TableAddress, a.Starts id → id = a.key) := by
  obtain ⟨t, fields, built⟩ := except_bind_ok.1 h
  cases built
  exact ⟨t, fields, rfl, rfl, t.forall₂_relations, t.relations_eq_iff⟩

/-- A dashboard over some tables. -/
def overTables (ids : List String) : Record :=
  [("dashboard_group_id", .text "sales"), ("dashboard_id", .text "daily"), ("table_ids", .texts ids)]

/-- Of three identifiers two are addresses, one of them with letters of another script, and both are
linked. -/
theorem links_of_build_twoTables : ∃ m c',
    dashboardTable.build (overTables ["hive://gold.core/users", "not a table", "bq://prod.sales/заказы"]) {} =
      .ok (m, c') ∧
    m.elements.relations.map Relation.endKey = ["hive://gold.core/users", "bq://prod.sales/заказы"] := by
  obtain ⟨⟨m, c'⟩, h⟩ : ∃ built, dashboardTable.build
      (overTables ["hive://gold.core/users", "not a table", "bq://prod.sales/заказы"]) {} = .ok built := ⟨_, rfl⟩
  obtain ⟨t, fields, -, -, -, links⟩ := links_of_build h
  obtain rfl : _ = t := Except.ok.inj fields
  have whole : ∀ id ∈ ["hive://gold.core/users", "not a table", "bq://prod.sales/заказы"],
      ∀ a ∈ TableAddress.ofUri? id, id = a.key := by
    decide +kernel
  refine ⟨m, c', h, ?_⟩
  rw [links.2 fun id hid a starts => whole id hid a (TableAddress.ofUri?_eq_some_iff.2 starts), List.map_map]
  decide +kernel

/-- **A dashboard can be linked to a table that it does not name**: an identifier with a hyphen is no
address, and the dashboard is linked to the one in front of the hyphen. -/
theorem linked_elsewhere : ∃ m c',
    dashboardTable.build (overTables ["hive://gold.core/users-2024"]) {} = .ok (m, c') ∧
    m.elements.relations.map Relation.endKey = ["hive://gold.core/users"] ∧
    ¬ TableAddress.IsAddress "hive://gold.core/users-2024" := by
  refine ⟨_, _, rfl, by decide +kernel, by decide +kernel⟩

end ModelKind

end MetaGraph

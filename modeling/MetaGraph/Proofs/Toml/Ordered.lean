/-
A TOML document is read into tables that keep their entries in order, however
its headings and dotted keys take turns.
-/
import MetaGraph.Proofs.Config.Overlay
import MetaGraph.Toml.Document

namespace MetaGraph.Toml

/-! ## Tables while they are read -/

namespace Entries

/-- The finished values of a table are in order. -/
def Ordered (es : Entries) : Prop := (Datum.table (toFields es)).Ordered

theorem get?_toFields (es : Entries) (key : String) :
    KeyMap.get? (toFields es) key = (KeyMap.get? es key).map Tree.toDatum := by
  induction es with
  | nil => rfl
  | cons entry rest ih =>
    obtain ⟨k, t⟩ := entry
    simp only [KeyMap.get?] at ih
    rw [toFields, KeyMap.get?, KeyMap.get?, List.lookup_cons, List.lookup_cons]
    split
    · rfl
    · exact ih

theorem toFields_insert (key : String) (t : Tree) (es : Entries) :
    toFields (KeyMap.insert key t es) = KeyMap.insert key t.toDatum (toFields es) := by
  induction es with
  | nil => simp [KeyMap.insert, toFields]
  | cons entry rest ih =>
    obtain ⟨k, t'⟩ := entry
    rw [toFields, KeyMap.insert, KeyMap.insert]
    split
    · rw [toFields, toFields]
    · split
      · rw [toFields]
      · rw [toFields, ih]

theorem ordered_nil : Ordered [] := by
  rw [Ordered, toFields]
  exact Datum.ordered_empty

theorem Ordered.insert {es : Entries} (h : es.Ordered) {t : Tree} (ht : t.toDatum.Ordered) (key : String) :
    Ordered (KeyMap.insert key t es) := by
  rw [Ordered, toFields_insert]
  exact Datum.ordered_insert h ht key

theorem Ordered.get? {es : Entries} (h : es.Ordered) {key : String} {t : Tree} (here : KeyMap.get? es key = some t) :
    t.toDatum.Ordered := by
  refine (Datum.ordered_table_iff.1 h).2 key _ ?_
  rw [get?_toFields, here, Option.map_some]

theorem ordered_rows (finished : List Datum) (last : Entries) : (Tree.rows finished last).toDatum.Ordered := by
  rw [Tree.toDatum]
  exact Datum.ordered_of_not_table rfl

theorem ordered_table {implied dotted : Bool} {es : Entries} :
    (Tree.table implied dotted es).toDatum.Ordered ↔ es.Ordered := by
  rw [Tree.toDatum, Ordered]

/-- Putting at a key what is made of a result, if there is one. -/
theorem Ordered.insert_made {α : Type} {made : Option α} {make : α → Tree} {key : String} {es es' : Entries}
    (h : es.Ordered) (good : ∀ a, made = some a → (make a).toDatum.Ordered)
    (changed : ((made.map make).bind fun t => some (KeyMap.insert key t es)) = some es') : es'.Ordered := by
  obtain ⟨t, ht, changed⟩ := Option.bind_eq_some_iff.1 changed
  obtain ⟨a, ha, rfl⟩ := Option.map_eq_some_iff.1 ht
  cases changed
  exact h.insert (good a ha) key

variable {change : Bool → Entries → Option Entries}

/-- A change that keeps a table in order does so at the end of any path. -/
theorem ordered_within {dotted : Bool}
    (keeps : ∀ {made es es'}, es.Ordered → change made es = some es' → es'.Ordered) {path : List String}
    {made : Bool} {es es' : Entries} (h : es.Ordered) (changed : within dotted change made path es = some es') :
    es'.Ordered := by
  induction path generalizing made es es' with
  | nil => exact keeps h changed
  | cons k ks ih =>
    rw [within] at changed
    cases here : KeyMap.get? es k with
    | none =>
      rw [here] at changed
      exact h.insert_made (fun below hb => ordered_table.2 (ih ordered_nil hb)) changed
    | some found =>
      rw [here] at changed
      cases found with
      | value d => cases changed
      | rows finished last => exact h.insert_made (fun below _ => ordered_rows finished below) changed
      | table implied made below =>
        dsimp only at changed
        split at changed
        · cases changed
        · exact h.insert_made (fun below' hb => ordered_table.2 (ih (ordered_table.1 (h.get? here)) hb)) changed

theorem ordered_assign {key : List String × String} {d : Datum} (hd : d.Ordered) {es es' : Entries} (h : es.Ordered)
    (assigned : assign key d es = some es') : es'.Ordered := by
  refine ordered_within (fun {made es es'} h changed => ?_) h assigned
  split at changed
  · cases changed
  · cases changed
    exact h.insert (t := .value d) (by rwa [Tree.toDatum]) key.2

theorem ordered_assignAll {assignments : List Assignment} (ha : ∀ a ∈ assignments, a.2.Ordered)
    {es es' : Entries} (h : es.Ordered) (assigned : assignAll es assignments = some es') : es'.Ordered := by
  induction assignments generalizing es with
  | nil =>
    cases assigned
    exact h
  | cons a rest ih =>
    obtain ⟨first, later⟩ := List.forall_mem_cons.1 ha
    rw [assignAll, List.foldlM_cons] at assigned
    obtain ⟨next, hn, assigned⟩ := Option.bind_eq_some_iff.1 assigned
    exact ih later (ordered_assign first h hn) assigned

theorem ordered_addSection {s : Section} (ha : ∀ a ∈ s.assignments, a.2.Ordered) {es es' : Entries} (h : es.Ordered)
    (added : addSection es s = some es') : es'.Ordered := by
  refine ordered_within (fun {made es es'} h changed => ?_) h added
  dsimp only at changed
  split at changed
  · exact h.insert_made (fun last _ => ordered_rows [] last) changed
  · exact h.insert_made (fun last _ => ordered_rows _ last) changed
  · exact h.insert_made (fun below hb => ordered_table.2 (ordered_assignAll ha ordered_nil hb)) changed
  · rename_i old here _
    have kept : Ordered old := ordered_table.1 (h.get? here)
    exact h.insert_made (fun below hb => ordered_table.2 (ordered_assignAll ha kept hb)) changed
  · cases changed

end Entries

/-! ## Values -/

theorem ordered_of_map {β : Type} {found : Option β} {make : β → Datum × List Char} {d : Datum} {rest : List Char}
    (single : ∀ b, (make b).1.isTable = false) (h : found.map make = some (d, rest)) : d.Ordered := by
  obtain ⟨b, -, made⟩ := Option.map_eq_some_iff.1 h
  refine Datum.ordered_of_not_table ?_
  have := single b
  rwa [made] at this

/-- A date or a time is a table of one entry. -/
theorem ordered_datetime {cs rest : List Char} {d : Datum} (h : datetime? cs = some (d, rest)) : d.Ordered := by
  have dated (text : List Char) : (Datum.table [(datetimeName, .text (String.ofList text))]).Ordered :=
    Datum.ordered_singleton (Datum.ordered_of_not_table (d := .text _) rfl) _
  unfold datetime? at h
  split at h
  · split at h
    · cases h
      exact dated _
    · cases h
      exact dated _
  · obtain ⟨_, ht, h⟩ := Option.bind_eq_some_iff.1 h
    cases h
    exact dated _

theorem isTable_int64 {n : Int} {d : Datum} (h : int64? n = some d) : d.isTable = false := by
  rw [int64?] at h
  split at h
  · cases h
    rfl
  · cases h

theorem isTable_based {base : Nat} {cs rest : List Char} {d : Datum} (h : based? base cs = some (d, rest)) :
    d.isTable = false := by
  obtain ⟨_, -, h⟩ := Option.bind_eq_some_iff.1 h
  obtain ⟨_, hd, h⟩ := Option.bind_eq_some_iff.1 h
  cases h
  exact isTable_int64 hd

theorem isTable_decimal {cs rest : List Char} {d : Datum} (h : decimal? cs = some (d, rest)) :
    d.isTable = false := by
  obtain ⟨_, -, h⟩ := Option.bind_eq_some_iff.1 h
  dsimp only at h
  split at h
  · obtain ⟨_, -, h⟩ := Option.bind_eq_some_iff.1 h
    split at h
    · cases h
    · cases h
      rfl
  · obtain ⟨_, hd, h⟩ := Option.bind_eq_some_iff.1 h
    cases h
    exact isTable_int64 hd

theorem isTable_namedFloat {cs rest : List Char} {d : Datum} (h : namedFloat? cs = some (d, rest)) :
    d.isTable = false := by
  rw [namedFloat?] at h
  dsimp only at h
  split at h <;> cases h <;> rfl

theorem ordered_dateOrNumber {cs rest : List Char} {d : Datum} (h : dateOrNumber? cs = some (d, rest)) :
    d.Ordered := by
  unfold dateOrNumber? at h
  simp only [Option.orElse_eq_orElse, Option.orElse_eq_or, Option.or_eq_some_iff] at h
  rcases h with h | ⟨-, h⟩
  · exact ordered_datetime h
  refine Datum.ordered_of_not_table ?_
  split at h
  · exact isTable_based h
  · exact isTable_based h
  · exact isTable_based h
  · rw [Option.or_eq_some_iff] at h
    rcases h with h | ⟨-, h⟩
    · exact isTable_decimal h
    · exact isTable_namedFloat h

theorem ordered_scalar {cs rest : List Char} {d : Datum} (h : scalar? cs = some (d, rest)) : d.Ordered := by
  unfold scalar? at h
  split at h
  · exact ordered_of_map (fun _ => rfl) h
  · exact ordered_of_map (fun _ => rfl) h
  · exact ordered_of_map (fun _ => rfl) h
  · exact ordered_of_map (fun _ => rfl) h
  · exact ordered_dateOrNumber h

/-- Values, and the assignments between braces, of which those that are read already are given. -/
theorem ordered_value (fuel : Nat) :
    (∀ {depth cs d rest}, value? fuel depth cs = some (d, rest) → d.Ordered) ∧
    ∀ {depth acc cs pairs rest}, (∀ a ∈ acc, a.2.Ordered) → pairs? fuel depth acc cs = some (pairs, rest) →
      ∀ a ∈ pairs, a.2.Ordered := by
  induction fuel with
  | zero => exact ⟨nofun, nofun⟩
  | succ fuel ih =>
    obtain ⟨values, assignments⟩ := ih
    constructor
    · intro depth cs d rest h
      unfold value? at h
      split at h
      · split at h
        · cases h
        · exact ordered_of_map (fun _ => rfl) h
      · split at h
        · cases h
        · have united {pairs : List Entries.Assignment} (ha : ∀ a ∈ pairs, a.2.Ordered) {es : Entries}
              (he : Entries.assignAll [] pairs = some es) : es.Ordered :=
            Entries.ordered_assignAll ha Entries.ordered_nil he
          dsimp only at h
          split at h
          · obtain ⟨⟨pairs, rest'⟩, hp, h⟩ := Option.bind_eq_some_iff.1 h
            obtain ⟨es, he, h⟩ := Option.bind_eq_some_iff.1 h
            cases hp
            cases h
            exact united (List.forall_mem_nil _) he
          · obtain ⟨⟨pairs, rest'⟩, hp, h⟩ := Option.bind_eq_some_iff.1 h
            obtain ⟨es, he, h⟩ := Option.bind_eq_some_iff.1 h
            cases h
            exact united (assignments (List.forall_mem_nil _) hp) he
      · exact ordered_scalar h
    · intro depth acc cs pairs rest ha h
      unfold pairs? at h
      obtain ⟨⟨key, rest₁⟩, -, h⟩ := Option.bind_eq_some_iff.1 h
      obtain ⟨rest₂, -, h⟩ := Option.bind_eq_some_iff.1 h
      obtain ⟨⟨d, rest₃⟩, hd, h⟩ := Option.bind_eq_some_iff.1 h
      have more : ∀ a ∈ (key, d) :: acc, a.2.Ordered := List.forall_mem_cons.2 ⟨values hd, ha⟩
      dsimp only at h
      split at h
      · exact assignments more h
      · cases h
        exact fun a hm => more a (List.mem_reverse.1 hm)
      · cases h

/-! ## Documents -/

theorem ordered_assignment {cs rest : List Char} {a : Entries.Assignment} (h : assignment? cs = some (a, rest)) :
    a.2.Ordered := by
  obtain ⟨⟨key, rest₁⟩, -, h⟩ := Option.bind_eq_some_iff.1 h
  obtain ⟨rest₂, -, h⟩ := Option.bind_eq_some_iff.1 h
  obtain ⟨⟨d, rest₃⟩, hd, h⟩ := Option.bind_eq_some_iff.1 h
  cases h
  exact (ordered_value _).1 hd

theorem ordered_sections {fuel : Nat} {top : List Entries.Assignment} {done : List Section} {cs : List Char}
    {result : List Entries.Assignment × List Section} (ht : ∀ a ∈ top, a.2.Ordered)
    (hd : ∀ s ∈ done, ∀ a ∈ s.assignments, a.2.Ordered) (h : sections? fuel top done cs = some result) :
    (∀ a ∈ result.1, a.2.Ordered) ∧ ∀ s ∈ result.2, ∀ a ∈ s.assignments, a.2.Ordered := by
  induction fuel generalizing top done cs with
  | zero => cases h
  | succ fuel ih =>
    rw [sections?] at h
    split at h
    · cases h
      exact ⟨ht, hd⟩
    · obtain ⟨⟨heading, rest₁⟩, -, h⟩ := Option.bind_eq_some_iff.1 h
      obtain ⟨rest₂, -, h⟩ := Option.bind_eq_some_iff.1 h
      exact ih ht (List.forall_mem_cons.2 ⟨List.forall_mem_nil _, hd⟩) h
    · obtain ⟨⟨a, rest₁⟩, ha, h⟩ := Option.bind_eq_some_iff.1 h
      obtain ⟨rest₂, -, h⟩ := Option.bind_eq_some_iff.1 h
      have given := ordered_assignment ha
      cases done with
      | nil => exact ih (List.forall_mem_cons.2 ⟨given, ht⟩) (List.forall_mem_nil _) h
      | cons s done =>
        obtain ⟨first, later⟩ := List.forall_mem_cons.1 hd
        have more : ∀ b ∈ a :: s.assignments, b.2.Ordered := List.forall_mem_cons.2 ⟨given, first⟩
        exact ih ht (List.forall_mem_cons.2 ⟨more, later⟩) h

theorem ordered_addSections {sections : List Section} (ha : ∀ s ∈ sections, ∀ a ∈ s.assignments, a.2.Ordered)
    {es es' : Entries} (h : es.Ordered)
    (added : sections.foldlM (fun es s => es.addSection { s with assignments := s.assignments.reverse }) es =
      some es') : es'.Ordered := by
  induction sections generalizing es with
  | nil =>
    cases added
    exact h
  | cons s rest ih =>
    rw [List.foldlM_cons] at added
    obtain ⟨next, hn, added⟩ := Option.bind_eq_some_iff.1 added
    obtain ⟨first, later⟩ := List.forall_mem_cons.1 ha
    refine ih later (Entries.ordered_addSection ?_ h hn) added
    intro a hm
    exact first a (List.mem_reverse.1 hm)

/-- The tables of a document are in order. -/
theorem ordered_parse {text : String} {entries : List (String × Datum)} (h : parse? text = some entries) :
    (Datum.table entries).Ordered := by
  obtain ⟨⟨top, sections⟩, hs, h⟩ := Option.bind_eq_some_iff.1 h
  obtain ⟨es, he, h⟩ := Option.bind_eq_some_iff.1 h
  obtain ⟨es', hf, h⟩ := Option.bind_eq_some_iff.1 h
  cases h
  obtain ⟨ht, hd⟩ := ordered_sections (List.forall_mem_nil _) (List.forall_mem_nil _) hs
  have start : es.Ordered :=
    Entries.ordered_assignAll (fun a ha => ht a (List.mem_reverse.1 ha)) Entries.ordered_nil he
  exact ordered_addSections (fun s hm => hd s (List.mem_reverse.1 hm)) start hf

end MetaGraph.Toml

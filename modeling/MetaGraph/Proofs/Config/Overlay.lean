/-
Trees of settings laid over others, seen from the paths into them. At a path
stands what the upper tree has there, else what the lower one has; only where
the upper tree has a single value on the way is what the lower tree has below
it lost.
-/
import MetaGraph.Decode.Datum
import MetaGraph.Proofs.KeyMap

namespace MetaGraph.Datum

/-! ## What stands at a path -/

/-- The value reached through tables, one for each step of the path. -/
def at? : List String → Datum → Option Datum
  | [], d => some d
  | step :: steps, .table entries => (KeyMap.get? entries step).bind (at? steps)
  | _ :: _, _ => none

def isTable : Datum → Bool
  | .table _ => true
  | _ => false

/-- What a value looks like at its place: a table is any table, whatever its entries. -/
def face : Datum → Datum
  | .table _ => .table []
  | d => d

/-- What stands at a path, apart from the entries of a table, which stand at longer paths. -/
def face? (path : List String) (d : Datum) : Option Datum := (d.at? path).map face

/-- Something other than a table stands on the way to a path. -/
def Blocks (d : Datum) (path : List String) : Prop :=
  ∃ front back v, path = front ++ back ∧ back ≠ [] ∧ d.at? front = some v ∧ v.isTable = false

/-- Tables at all paths keep their entries in order. -/
def Ordered (d : Datum) : Prop := ∀ path entries, d.at? path = some (.table entries) → KeyMap.Sorted entries

@[simp] theorem at?_nil (d : Datum) : d.at? [] = some d := by cases d <;> rfl

@[simp] theorem at?_table_cons (entries : List (String × Datum)) (step : String) (steps : List String) :
    (table entries).at? (step :: steps) = (KeyMap.get? entries step).bind (at? steps) := rfl

theorem at?_cons_of_not_table {d : Datum} (h : d.isTable = false) (step : String) (steps : List String) :
    d.at? (step :: steps) = none := by
  cases d with
  | table entries => cases h
  | _ => rfl

theorem face_of_not_table {d : Datum} (h : d.isTable = false) : d.face = d := by
  cases d with
  | table entries => cases h
  | _ => rfl

theorem at?_append (d : Datum) (front back : List String) :
    d.at? (front ++ back) = (d.at? front).bind (at? back) := by
  induction front generalizing d with
  | nil => rw [List.nil_append, at?_nil, Option.bind_some]
  | cons step steps ih =>
    cases d with
    | table entries =>
      rw [List.cons_append, at?_table_cons, at?_table_cons]
      cases KeyMap.get? entries step with
      | none => rfl
      | some value => exact ih value
    | _ => rfl

theorem blocks_of_not_table {d : Datum} (h : d.isTable = false) (step : String) (steps : List String) :
    d.Blocks (step :: steps) :=
  ⟨[], step :: steps, d, rfl, List.cons_ne_nil _ _, at?_nil d, h⟩

theorem not_blocks_nil (d : Datum) : ¬ d.Blocks [] := by
  intro ⟨front, back, v, whole, more, found, single⟩
  exact more (List.append_eq_nil_iff.1 whole.symm).2

theorem blocks_table_cons_iff {entries : List (String × Datum)} {step : String} {steps : List String} :
    (table entries).Blocks (step :: steps) ↔ ∃ d ∈ KeyMap.get? entries step, d.Blocks steps := by
  constructor
  · intro ⟨front, back, v, whole, more, found, single⟩
    cases front with
    | nil =>
      rw [at?_nil, Option.some.injEq] at found
      rw [← found] at single
      cases single
    | cons first front =>
      obtain ⟨rfl, rfl⟩ := List.cons.inj whole
      obtain ⟨d, here, found⟩ := Option.bind_eq_some_iff.1 found
      exact ⟨d, here, front, back, v, rfl, more, found, single⟩
  · intro ⟨d, here, front, back, v, whole, more, found, single⟩
    refine ⟨step :: front, back, v, by rw [whole, List.cons_append], more, ?_, single⟩
    rw [at?_table_cons, Option.mem_def.1 here, Option.bind_some, found]

instance decidableBlocks : (path : List String) → (d : Datum) → Decidable (d.Blocks path)
  | [], d => isFalse (not_blocks_nil d)
  | step :: steps, .table entries =>
    have := decidableBlocks steps
    decidable_of_iff (∃ d ∈ KeyMap.get? entries step, d.Blocks steps) blocks_table_cons_iff.symm
  | step :: steps, .empty | step :: steps, .bool _ | step :: steps, .integer .. | step :: steps, .float _
  | step :: steps, .char _ | step :: steps, .text _ | step :: steps, .list _ =>
    isTrue (blocks_of_not_table rfl step steps)

theorem sizeOf_of_get? {entries : List (String × Datum)} {key : String} {d : Datum}
    (h : KeyMap.get? entries key = some d) : sizeOf d < sizeOf entries := by
  induction entries with
  | nil => cases h
  | cons entry rest ih =>
    obtain ⟨k, value⟩ := entry
    rw [KeyMap.get?, List.lookup_cons] at h
    split at h
    · cases h
      simp only [List.cons.sizeOf_spec, Prod.mk.sizeOf_spec]
      omega
    · have := ih h
      simp only [List.cons.sizeOf_spec]
      omega

/-- What holds of single values, and of tables if it holds of their entries, holds of all data. -/
@[elab_as_elim]
theorem byEntries {motive : Datum → Prop} (single : ∀ d, d.isTable = false → motive d)
    (tables : ∀ entries, (∀ key d, KeyMap.get? entries key = some d → motive d) → motive (table entries)) :
    ∀ d, motive d
  | table entries => tables entries fun key d here =>
    have := sizeOf_of_get? here
    byEntries single tables d
  | .empty | .bool _ | .integer .. | .float _ | .char _ | .text _ | .list _ => single _ rfl
termination_by d => sizeOf d
decreasing_by
  simp only [table.sizeOf_spec]
  omega

/-! ## Tables in order -/

theorem ordered_of_not_table {d : Datum} (h : d.isTable = false) : d.Ordered := by
  intro path entries found
  cases path with
  | nil =>
    rw [at?_nil, Option.some.injEq] at found
    rw [found] at h
    cases h
  | cons step steps =>
    rw [at?_cons_of_not_table h] at found
    cases found

theorem ordered_table_iff {entries : List (String × Datum)} : (table entries).Ordered ↔
    KeyMap.Sorted entries ∧ ∀ key d, KeyMap.get? entries key = some d → d.Ordered := by
  constructor
  · intro h
    refine ⟨h [] entries (at?_nil _), fun key d here path inner found => h (key :: path) inner ?_⟩
    rw [at?_table_cons, here, Option.bind_some, found]
  · intro ⟨sorted, values⟩ path inner found
    cases path with
    | nil =>
      rw [at?_nil, Option.some.injEq, table.injEq] at found
      exact found ▸ sorted
    | cons step steps =>
      obtain ⟨d, here, found⟩ := Option.bind_eq_some_iff.1 found
      exact values step d here steps inner found

theorem ordered_empty : (table []).Ordered := ordered_table_iff.2 ⟨List.Pairwise.nil, nofun⟩

theorem ordered_insert {entries : List (String × Datum)} (h : (table entries).Ordered) {d : Datum}
    (hd : d.Ordered) (key : String) : (table (KeyMap.insert key d entries)).Ordered := by
  obtain ⟨sorted, values⟩ := ordered_table_iff.1 h
  refine ordered_table_iff.2 ⟨KeyMap.sorted_insert sorted key d, fun other value here => ?_⟩
  by_cases same : other = key
  · rw [same, KeyMap.get?_insert_self, Option.some.injEq] at here
    exact here ▸ hd
  · rw [KeyMap.get?_insert_other entries d same] at here
    exact values other value here

theorem ordered_singleton {d : Datum} (h : d.Ordered) (key : String) : (table [(key, d)]).Ordered :=
  ordered_insert ordered_empty h key

theorem ordered_of_at? {d value : Datum} (h : d.Ordered) {path : List String} (found : d.at? path = some value) :
    value.Ordered := by
  intro rest entries inner
  refine h (path ++ rest) entries ?_
  rw [at?_append, found, Option.bind_some, inner]

/-- Trees in order that look the same at every path are the same. -/
theorem Ordered.ext {d d' : Datum} (h : d.Ordered) (h' : d'.Ordered)
    (same : ∀ path, d.face? path = d'.face? path) : d = d' := by
  have here : d.face = d'.face := by simpa [face?] using same []
  induction d using byEntries generalizing d' with
  | single d single =>
    rw [face_of_not_table single] at here
    cases d' with
    | table entries' =>
      rw [here] at single
      cases single
    | _ => exact here
  | tables entries ih =>
    cases d' with
    | table entries' =>
      obtain ⟨sorted, values⟩ := ordered_table_iff.1 h
      obtain ⟨sorted', values'⟩ := ordered_table_iff.1 h'
      refine congrArg table (sorted.ext sorted' fun key => ?_)
      have below (path : List String) : ((KeyMap.get? entries key).bind (at? path)).map face =
          ((KeyMap.get? entries' key).bind (at? path)).map face := same (key :: path)
      cases hv : KeyMap.get? entries key with
      | none =>
        cases hv' : KeyMap.get? entries' key with
        | none => rfl
        | some value' => simpa [hv, hv'] using below []
      | some value =>
        cases hv' : KeyMap.get? entries' key with
        | none => simpa [hv, hv'] using below []
        | some value' =>
          simp only [hv, hv', Option.bind_some] at below
          refine congrArg some (ih key value hv (values key value hv) (values' key value' hv') below ?_)
          simpa using below []
    | _ => cases here

/-! ## One tree over another -/

/-- What stands at a path where two trees have these values. -/
def over? : Option Datum → Option Datum → Option Datum
  | old, none => old
  | none, some new => some new
  | some old, some new => some (overlay old new)

@[simp] theorem over?_none_right (old : Option Datum) : over? old none = old := by cases old <;> rfl

@[simp] theorem over?_none_left (new : Option Datum) : over? none new = new := by cases new <;> rfl

theorem overlay_tables (old new : List (String × Datum)) :
    overlay (table old) (table new) = table (overlayEntries old new) := by rw [overlay]

theorem overlay_of_not_table_left {old : Datum} (h : old.isTable = false) (new : Datum) : overlay old new = new := by
  cases old with
  | table entries => cases h
  | _ => rw [overlay]; exact nofun

theorem overlay_of_not_table_right {new : Datum} (h : new.isTable = false) (old : Datum) : overlay old new = new := by
  cases new with
  | table entries => cases h
  | _ => rw [overlay]; exact nofun

theorem face_overlay (old new : Datum) : (overlay old new).face = new.face := by
  cases new with
  | table entries =>
    cases old with
    | table lower => rw [overlay_tables]; rfl
    | _ => rw [overlay_of_not_table_left rfl]
  | _ => rw [overlay_of_not_table_right rfl]

theorem map_face_over? (old new : Option Datum) : (over? old new).map face = (new.map face <|> old.map face) := by
  cases new with
  | none => simp
  | some n =>
    cases old with
    | none => rfl
    | some o => simp [over?, face_overlay]

theorem get?_overlayEntries (old : List (String × Datum)) {new : List (String × Datum)} (h : KeyMap.Sorted new)
    (key : String) :
    KeyMap.get? (overlayEntries old new) key = over? (KeyMap.get? old key) (KeyMap.get? new key) := by
  induction new generalizing old with
  | nil => simp [overlayEntries, KeyMap.get?]
  | cons entry rest ih =>
    obtain ⟨k, value⟩ := entry
    obtain ⟨first, sorted⟩ := List.pairwise_cons.1 h
    rw [overlayEntries, ih _ sorted]
    by_cases same : key = k
    · subst same
      have later : KeyMap.get? rest key = none := KeyMap.get?_eq_none_of_notMem fun hm => by
        obtain ⟨e, he, rfl⟩ := List.mem_map.1 hm
        exact String.lt_irrefl _ (first e he)
      have here : KeyMap.get? ((key, value) :: rest) key = some value := by simp [KeyMap.get?]
      rw [later, KeyMap.get?_insert_self, over?_none_right, here]
      cases KeyMap.get? old key <;> rfl
    · have hb : (key == k) = false := by simpa using same
      have other : KeyMap.get? ((k, value) :: rest) key = KeyMap.get? rest key := by
        simp [KeyMap.get?, List.lookup_cons, hb]
      rw [KeyMap.get?_insert_other _ _ same, other]

theorem sorted_overlayEntries {old : List (String × Datum)} (h : KeyMap.Sorted old)
    (new : List (String × Datum)) : KeyMap.Sorted (overlayEntries old new) := by
  induction new generalizing old with
  | nil => rwa [overlayEntries]
  | cons entry rest ih =>
    obtain ⟨k, value⟩ := entry
    rw [overlayEntries]
    exact ih (KeyMap.sorted_insert h k _)

/-- What stands at a path of the tree, if the upper tree does not block the way to what the lower
one has there. -/
theorem at?_overlay {new : Datum} (ordered : new.Ordered) (old : Datum) (path : List String)
    (clear : new.Blocks path → old.at? path = none) :
    (overlay old new).at? path = over? (old.at? path) (new.at? path) := by
  induction path generalizing old new with
  | nil => simp [over?]
  | cons step steps ih =>
    cases new with
    | table upper =>
      cases old with
      | table lower =>
        obtain ⟨sorted, values⟩ := ordered_table_iff.1 ordered
        rw [overlay_tables, at?_table_cons, at?_table_cons, at?_table_cons, get?_overlayEntries lower sorted]
        rw [at?_table_cons] at clear
        cases hn : KeyMap.get? upper step with
        | none => simp
        | some n =>
          cases ho : KeyMap.get? lower step with
          | none => simp
          | some o =>
            refine ih (values step n hn) o fun blocks => ?_
            simpa [ho] using clear (blocks_table_cons_iff.2 ⟨n, hn, blocks⟩)
      | _ =>
        rw [overlay_of_not_table_left rfl]
        exact (over?_none_left _).symm
    | _ =>
      rw [overlay_of_not_table_right rfl, clear (blocks_of_not_table rfl step steps)]
      exact (over?_none_left _).symm

/-- A single value in the tree is that of the lower tree or of the upper one. -/
theorem at?_overlay_single {new : Datum} (ordered : new.Ordered) {old v : Datum} {path : List String}
    (found : (overlay old new).at? path = some v) (single : v.isTable = false) :
    old.at? path = some v ∨ new.at? path = some v := by
  induction path generalizing old new with
  | nil =>
    rw [at?_nil, Option.some.injEq] at found
    have looks : new.face = v := by rw [← face_overlay old new, found, face_of_not_table single]
    refine .inr ?_
    rw [at?_nil, Option.some.injEq, ← looks]
    cases new with
    | table entries =>
      rw [← looks] at single
      cases single
    | _ => rfl
  | cons step steps ih =>
    cases new with
    | table upper =>
      cases old with
      | table lower =>
        obtain ⟨sorted, values⟩ := ordered_table_iff.1 ordered
        rw [overlay_tables, at?_table_cons, get?_overlayEntries lower sorted] at found
        rw [at?_table_cons, at?_table_cons]
        cases hn : KeyMap.get? upper step with
        | none => exact .inl (by simpa [hn] using found)
        | some n =>
          cases ho : KeyMap.get? lower step with
          | none => exact .inr (by simpa [hn, ho] using found)
          | some o =>
            refine ih (values step n hn) ?_
            simpa [hn, ho, over?] using found
      | _ =>
        rw [overlay_of_not_table_left rfl] at found
        exact .inr found
    | _ =>
      rw [overlay_of_not_table_right rfl] at found
      exact .inr found

/-- Trees in order laid over each other are in order. -/
theorem ordered_overlay {old new : Datum} (ho : old.Ordered) (hn : new.Ordered) : (overlay old new).Ordered := by
  induction new using byEntries generalizing old with
  | single new single => rwa [overlay_of_not_table_right single]
  | tables upper ih =>
    cases old with
    | table lower =>
      rw [overlay_tables]
      obtain ⟨sorted, values⟩ := ordered_table_iff.1 ho
      obtain ⟨sorted', values'⟩ := ordered_table_iff.1 hn
      refine ordered_table_iff.2 ⟨sorted_overlayEntries sorted upper, fun key d here => ?_⟩
      rw [get?_overlayEntries lower sorted'] at here
      cases hu : KeyMap.get? upper key with
      | none => exact values key d (by simpa [hu] using here)
      | some n =>
        cases hl : KeyMap.get? lower key with
        | none => exact values' key d (by simpa [hu, hl] using here)
        | some o =>
          have united : overlay o n = d := by simpa [hu, hl, over?] using here
          exact united ▸ ih key n hu (values key o hl) (values' key n hu)
    | _ => rwa [overlay_of_not_table_left rfl]

/-! ## The part of a tree below a path -/

/-- The entries of the table at a path; none where there is no table. -/
def entriesAt (path : List String) (d : Datum) : List (String × Datum) :=
  match d.at? path with
  | some (.table entries) => entries
  | _ => []

/-- The tree below a path. -/
def part (path : List String) (d : Datum) : Datum := table (d.entriesAt path)

theorem at?_part (d : Datum) (front : List String) {path : List String} (h : path ≠ []) :
    (d.part front).at? path = d.at? (front ++ path) := by
  obtain ⟨step, steps, rfl⟩ := List.exists_cons_of_ne_nil h
  rw [at?_append, part, entriesAt]
  cases d.at? front with
  | none => rfl
  | some value => cases value <;> rfl

theorem ordered_part {d : Datum} (h : d.Ordered) (path : List String) : (d.part path).Ordered := by
  rw [part, entriesAt]
  split
  · rename_i entries found
    exact ordered_of_at? h found
  · exact ordered_empty

/-- Trees that look the same at all paths below a place have the same entries there. -/
theorem entriesAt_eq {d d' : Datum} (h : d.Ordered) (h' : d'.Ordered) {front : List String}
    (same : ∀ path, path ≠ [] → d.face? (front ++ path) = d'.face? (front ++ path)) :
    d.entriesAt front = d'.entriesAt front := by
  have parts : d.part front = d'.part front := by
    refine (ordered_part h front).ext (ordered_part h' front) fun path => ?_
    by_cases below : path = []
    · rw [below]
      rfl
    · rw [face?, face?, at?_part _ _ below, at?_part _ _ below]
      exact same path below
  exact table.inj parts

end MetaGraph.Datum

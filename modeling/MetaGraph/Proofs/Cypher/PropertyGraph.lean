/-
What a script does to a property graph. A node statement merges a node: all
nodes with its label and key have their properties set, and if there is none
it is made. A relation statement merges two edges between the nodes it
matches, and does nothing if it matches none. Nothing here takes keys to be
unique or to stay as they are: the key of a node is a property, and setting
properties could change it.

Merging the same things again changes nothing (`applyAll_applyAll`), as long
as setting properties leaves alone what elements are told apart by.
-/
import Mathlib.Data.List.Nodup
import MetaGraph.Cypher.Sheet
import MetaGraph.Proofs.KeyMap

namespace MetaGraph.Cypher

/-! ## Graphs -/

/-- A node or an edge with its properties. The place is what they cannot change: the label of a
node, the ends and the type of an edge. -/
structure Stored (κ : Type) where
  place : κ
  properties : KeyMap Value := []
deriving DecidableEq, Repr

abbrev StoredNode := Stored String

/-- An edge goes from a node to a node, which are told by the order in which nodes were made;
its type stands between them. -/
abbrev StoredEdge := Stored (Nat × String × Nat)

structure PropertyGraph where
  nodes : List StoredNode := []
  edges : List StoredEdge := []
deriving DecidableEq, Repr

/-- The property that holds the key of a node. -/
def keyProperty : String := "key"

/-- What tells a node from others: its label and its key. -/
def identOf (x : StoredNode) : String × Option Value := (x.place, x.properties.get? keyProperty)

def NodeRef.ident (n : NodeRef) : String × Option Value := (n.label, some (.quoted n.key))

/-! ## Statements at work -/

namespace Stored

variable {κ : Type}

/-- Overwrites properties, one after the other. -/
def set (sets : List Assignment) (x : Stored κ) : Stored κ :=
  { x with properties := x.properties.extend (sets.map fun a => (a.property, a.value)) }

end Stored

/-- An element to be merged: what tells it from others, what is made if it is not there, and what
is set on it. -/
structure Merge (κ ι : Type) where
  ident : ι
  made : Stored κ
  sets : List Assignment

section Merging

variable {κ ι : Type} [DecidableEq ι]

/-- Merges an element: all that are told apart in no way are set. -/
def Merge.apply (ident : Stored κ → ι) (m : Merge κ ι) (xs : List (Stored κ)) : List (Stored κ) :=
  if m.ident ∈ xs.map ident then xs.map fun x => if ident x = m.ident then x.set m.sets else x
  else xs ++ [m.made.set m.sets]

/-- Merges elements, one after the other. -/
def applyAll (ident : Stored κ → ι) (ms : List (Merge κ ι)) (xs : List (Stored κ)) : List (Stored κ) :=
  ms.foldl (fun xs m => m.apply ident xs) xs

end Merging

/-- The nodes of a label and key, by the order in which nodes were made. -/
def placesOf (nodes : List StoredNode) (n : NodeRef) : List Nat :=
  nodes.zipIdx.filterMap fun (x, i) => if identOf x = n.ident then some i else none

namespace Statement

/-- The nodes that a statement merges. -/
def nodeMerges : Statement → List (Merge String (String × Option Value))
  | node n sets => [⟨n.ident, ⟨n.label, [(keyProperty, .quoted n.key)]⟩, sets⟩]
  | unique _ | relation .. => []

/-- The edges that a statement merges between the nodes that it matches: one from each start to
each target, and one back. -/
def edgeMerges (nodes : List StoredNode) : Statement → List (Merge (Nat × String × Nat) (Nat × String × Nat))
  | relation start target kind reverseKind sets =>
    (placesOf nodes start).flatMap fun i => (placesOf nodes target).flatMap fun j =>
      [⟨(i, kind, j), ⟨(i, kind, j), []⟩, sets⟩, ⟨(j, reverseKind, i), ⟨(j, reverseKind, i), []⟩, sets⟩]
  | unique _ | node .. => []

end Statement

namespace PropertyGraph

/-- The graph after a statement. A constraint only refuses what would break it. -/
def step (g : PropertyGraph) (st : Statement) : PropertyGraph where
  nodes := applyAll identOf st.nodeMerges g.nodes
  edges := applyAll Stored.place (st.edgeMerges g.nodes) g.edges

/-- The graph after a script. -/
def run (script : List Statement) (g : PropertyGraph) : PropertyGraph := script.foldl step g

end PropertyGraph

/-! ## Setting properties -/

namespace Stored

variable {κ : Type}

theorem set_append (first second : List Assignment) (x : Stored κ) :
    x.set (first ++ second) = (x.set first).set second := by
  simp [set, KeyMap.extend]

/-- The last value of a property counts, so setting it all again changes nothing. -/
theorem set_set {x : Stored κ} (h : x.properties.Sorted) (sets : List Assignment) :
    (x.set sets).set sets = x.set sets := by
  simp [set, KeyMap.extend_extend_self h]

theorem sorted_set {x : Stored κ} (h : x.properties.Sorted) (sets : List Assignment) :
    (x.set sets).properties.Sorted :=
  KeyMap.sorted_extend h _

end Stored

/-- A node keeps its key if no property of that name is set. -/
theorem identOf_set {sets : List Assignment} (h : ∀ a ∈ sets, a.property ≠ keyProperty) (x : StoredNode) :
    identOf (x.set sets) = identOf x := by
  have other : keyProperty ∉ (sets.map fun a => (a.property, a.value)).map Prod.fst := by
    simpa using fun a ha => h a ha
  simp only [identOf, Stored.set, KeyMap.get?_extend_of_notMem _ other]

/-! ## Merging again -/

section Merging

variable {κ ι : Type} [DecidableEq ι] {ident : Stored κ → ι} {m : Merge κ ι} {ms done : List (Merge κ ι)}
  {xs : List (Stored κ)} {x : Stored κ}

/-- What is merged is made as it is looked for, and setting properties leaves alone what elements
are told apart by. -/
structure Merge.Fits (ident : Stored κ → ι) (m : Merge κ ι) : Prop where
  made : ident m.made = m.ident
  sorted : m.made.properties.Sorted
  keeps : ∀ x, ident (x.set m.sets) = ident x

/-- All that merging sets on an element. -/
def setsOn (ident : Stored κ → ι) (ms : List (Merge κ ι)) (x : Stored κ) : Stored κ :=
  x.set ((ms.filter (·.ident = ident x)).flatMap (·.sets))

theorem setsOn_none (h : ∀ m ∈ ms, m.ident ≠ ident x) : setsOn ident ms x = x := by
  have none : ms.filter (·.ident = ident x) = [] := List.filter_eq_nil_iff.2 (by simpa using h)
  rw [setsOn, none]
  rfl

theorem setsOn_singleton (m : Merge κ ι) (x : Stored κ) :
    setsOn ident [m] x = if ident x = m.ident then x.set m.sets else x := by
  by_cases h : m.ident = ident x
  · simp [setsOn, h]
  · rw [setsOn_none (by simpa using h), if_neg (Ne.symm h)]

theorem ident_setsOn (h : ∀ m ∈ ms, m.Fits ident) (x : Stored κ) : ident (setsOn ident ms x) = ident x := by
  have keeps (used : List (Merge κ ι)) (hu : ∀ m ∈ used, m.Fits ident) (x : Stored κ) :
      ident (x.set (used.flatMap (·.sets))) = ident x := by
    induction used generalizing x with
    | nil => rfl
    | cons m rest ih =>
      obtain ⟨first, later⟩ := List.forall_mem_cons.1 hu
      rw [List.flatMap_cons, Stored.set_append, ih later, first.keeps]
  exact keeps _ (fun m hm => h m (List.mem_filter.1 hm).1) x

theorem setsOn_append (h : ∀ m ∈ ms, m.Fits ident) (more : List (Merge κ ι)) (x : Stored κ) :
    setsOn ident (ms ++ more) x = setsOn ident more (setsOn ident ms x) := by
  rw [setsOn.eq_1 ident more, ident_setsOn h]
  simp [setsOn, Stored.set_append]

theorem setsOn_setsOn (h : ∀ m ∈ ms, m.Fits ident) (hx : x.properties.Sorted) :
    setsOn ident ms (setsOn ident ms x) = setsOn ident ms x := by
  rw [setsOn.eq_1 ident ms (setsOn ident ms x), ident_setsOn h]
  exact Stored.set_set hx _

/-- An element that is there keeps what tells it apart, and one that is not is new at the end. -/
theorem idents_apply (h : m.Fits ident) (xs : List (Stored κ)) :
    (m.apply ident xs).map ident =
      if m.ident ∈ xs.map ident then xs.map ident else xs.map ident ++ [m.ident] := by
  rw [Merge.apply]
  split
  · rw [List.map_map]
    refine List.map_congr_left fun x _ => ?_
    simp only [Function.comp_apply]
    split
    · exact h.keeps x
    · rfl
  · rw [List.map_append, List.map_singleton, h.keeps, h.made]

theorem mem_idents_apply (h : m.Fits ident) {i : ι} :
    i ∈ (m.apply ident xs).map ident ↔ i ∈ xs.map ident ∨ i = m.ident := by
  rw [idents_apply h]
  split
  · rename_i there
    exact ⟨.inl, fun hi => hi.elim id fun hi => hi ▸ there⟩
  · rw [List.mem_append, List.mem_singleton]

/-- Elements stay where they are, told apart as before. -/
theorem idents_prefix_applyAll (h : ∀ m ∈ ms, m.Fits ident) (xs : List (Stored κ)) :
    xs.map ident <+: (applyAll ident ms xs).map ident := by
  induction ms generalizing xs with
  | nil => exact List.prefix_refl _
  | cons m rest ih =>
    obtain ⟨first, later⟩ := List.forall_mem_cons.1 h
    refine List.IsPrefix.trans ?_ (ih later (m.apply ident xs))
    rw [idents_apply first]
    split
    · exact List.prefix_refl _
    · exact List.prefix_append _ _

/-- Elements that can be told apart still can be. -/
theorem nodup_applyAll (h : ∀ m ∈ ms, m.Fits ident) (hx : (xs.map ident).Nodup) :
    ((applyAll ident ms xs).map ident).Nodup := by
  induction ms generalizing xs with
  | nil => exact hx
  | cons m rest ih =>
    obtain ⟨first, later⟩ := List.forall_mem_cons.1 h
    refine ih later ?_
    rw [idents_apply first]
    split
    · exact hx
    · rename_i new
      exact List.nodup_append.2 ⟨hx, List.nodup_singleton _, by
        rintro i hi _ hm rfl
        rw [List.mem_singleton.1 hm] at hi
        exact new hi⟩

/-- The elements are as merging leaves them: all that is merged is there, and each element is one
on which all of it has been set. -/
structure Settled (ident : Stored κ → ι) (ms : List (Merge κ ι)) (xs : List (Stored κ)) : Prop where
  present : ∀ m ∈ ms, m.ident ∈ xs.map ident
  set : ∀ x ∈ xs, ∃ z : Stored κ, z.properties.Sorted ∧ x = setsOn ident ms z

theorem Settled.apply (hd : ∀ m ∈ done, m.Fits ident) (hm : m.Fits ident) (h : Settled ident done xs) :
    Settled ident (done ++ [m]) (m.apply ident xs) where
  present := by
    intro m' hm'
    rw [mem_idents_apply hm]
    rcases List.mem_append.1 hm' with hm' | hm'
    · exact .inl (h.present m' hm')
    · exact .inr (congrArg _ (List.mem_singleton.1 hm'))
  set := by
    intro y hy
    rw [Merge.apply] at hy
    split at hy
    · obtain ⟨x, hx, rfl⟩ := List.mem_map.1 hy
      obtain ⟨z, hz, rfl⟩ := h.set x hx
      exact ⟨z, hz, by rw [setsOn_append hd, setsOn_singleton]⟩
    rename_i new
    rcases List.mem_append.1 hy with hy | hy
    · obtain ⟨z, hz, rfl⟩ := h.set y hy
      refine ⟨z, hz, ?_⟩
      have other : ident (setsOn ident done z) ≠ m.ident := fun he => new (he ▸ List.mem_map_of_mem hy)
      rw [setsOn_append hd, setsOn_singleton, if_neg other]
    · -- Nothing has been set on the new element: what was merged before is there already.
      have untouched : setsOn ident done m.made = m.made := by
        refine setsOn_none fun m' hm' he => new ?_
        rw [← hm.made, ← he]
        exact h.present m' hm'
      refine ⟨m.made, hm.sorted, ?_⟩
      rw [setsOn_append hd, untouched, setsOn_singleton, if_pos hm.made, List.mem_singleton.1 hy]

theorem Settled.applyAll (hd : ∀ m ∈ done, m.Fits ident) (hm : ∀ m ∈ ms, m.Fits ident)
    (h : Settled ident done xs) : Settled ident (done ++ ms) (applyAll ident ms xs) := by
  induction ms generalizing done xs with
  | nil => rwa [List.append_nil]
  | cons m rest ih =>
    obtain ⟨first, later⟩ := List.forall_mem_cons.1 hm
    have both : ∀ m' ∈ done ++ [m], m'.Fits ident :=
      List.forall_mem_append.2 ⟨hd, List.forall_mem_singleton.2 first⟩
    have rest := ih both later (h.apply hd first)
    rwa [List.append_assoc, List.singleton_append] at rest

theorem settled_nil (hx : ∀ x ∈ xs, x.properties.Sorted) : Settled ident [] xs :=
  ⟨by simp, fun x h => ⟨x, hx x h, (setsOn_none (by simp)).symm⟩⟩

/-- Where all that is merged is there, merging only sets properties. -/
theorem applyAll_of_present (hm : ∀ m ∈ ms, m.Fits ident) (h : ∀ m ∈ ms, m.ident ∈ xs.map ident) :
    applyAll ident ms xs = xs.map (setsOn ident ms) := by
  induction ms generalizing xs with
  | nil =>
    have : setsOn ident ([] : List (Merge κ ι)) = id := funext fun x => setsOn_none (by simp)
    rw [this, List.map_id]
    rfl
  | cons m rest ih =>
    obtain ⟨first, later⟩ := List.forall_mem_cons.1 hm
    obtain ⟨here, there⟩ := List.forall_mem_cons.1 h
    have one : m.apply ident xs = xs.map (setsOn ident [m]) := by
      rw [Merge.apply, if_pos here]
      exact List.map_congr_left fun x _ => (setsOn_singleton m x).symm
    have still : ∀ m' ∈ rest, m'.ident ∈ (m.apply ident xs).map ident := fun m' hm' =>
      (mem_idents_apply first).2 (.inl (there m' hm'))
    change applyAll ident rest (m.apply ident xs) = _
    rw [ih later still, one, List.map_map]
    refine List.map_congr_left fun x _ => ?_
    exact (setsOn_append (List.forall_mem_singleton.2 first) rest x).symm

/-- **Merging the same again changes nothing.** -/
theorem applyAll_applyAll (hm : ∀ m ∈ ms, m.Fits ident) (hx : ∀ x ∈ xs, x.properties.Sorted) :
    applyAll ident ms (applyAll ident ms xs) = applyAll ident ms xs := by
  have settled : Settled ident ms (applyAll ident ms xs) := (settled_nil hx).applyAll (by simp) hm
  rw [applyAll_of_present hm settled.present]
  refine (List.map_congr_left fun y hy => ?_).trans (List.map_id _)
  obtain ⟨z, hz, rfl⟩ := settled.set y hy
  exact setsOn_setsOn hm hz

theorem sorted_applyAll (hm : ∀ m ∈ ms, m.Fits ident) (hx : ∀ x ∈ xs, x.properties.Sorted) :
    ∀ x ∈ applyAll ident ms xs, x.properties.Sorted := by
  intro y hy
  obtain ⟨z, hz, rfl⟩ := ((settled_nil hx).applyAll (by simp) hm).set y hy
  exact Stored.sorted_set hz _

end Merging

end MetaGraph.Cypher

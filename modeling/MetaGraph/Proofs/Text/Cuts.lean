/-
Where texts are cut. A mark that does not come again tells the place; where it
does come again, a text can be cut at either place. A text loses an end
exactly if it has it.
-/
import Mathlib.Data.List.Basic
import Mathlib.Data.List.TakeWhile
import MetaGraph.Text.Pieces

namespace MetaGraph.Text

/-! ## At a mark -/

/-- Where neither front holds the mark, its first place tells where a text is cut. -/
theorem front_inj {α : Type} {x : α} : ∀ {front front' back back' : List α}, x ∉ front → x ∉ front' →
    front ++ x :: back = front' ++ x :: back' → front = front' ∧ back = back'
  | [], [], _, _, _, _, h => ⟨rfl, (List.cons.inj h).2⟩
  | [], _ :: _, _, _, _, hf', h => absurd ((List.cons.inj h).1 ▸ List.mem_cons_self) hf'
  | _ :: _, [], _, _, hf, _, h => absurd ((List.cons.inj h).1 ▸ List.mem_cons_self) hf
  | _ :: front, _ :: front', _, _, hf, hf', h => by
    obtain ⟨rfl, ht⟩ := List.cons.inj h
    simp only [List.mem_cons, not_or] at hf hf'
    obtain ⟨rfl, rfl⟩ := front_inj hf.2 hf'.2 ht
    exact ⟨rfl, rfl⟩

/-- Where neither back holds the mark, its last place tells where a text is cut. -/
theorem back_inj {α : Type} {x : α} : ∀ {front front' back back' : List α}, x ∉ back → x ∉ back' →
    front ++ x :: back = front' ++ x :: back' → front = front' ∧ back = back'
  | [], [], _, _, _, _, h => ⟨rfl, (List.cons.inj h).2⟩
  | [], _ :: front', _, _, hb, _, h => by
    obtain ⟨-, rfl⟩ := List.cons.inj h
    exact absurd (List.mem_append_right front' List.mem_cons_self) hb
  | _ :: front, [], _, _, _, hb, h => by
    obtain ⟨-, rfl⟩ := List.cons.inj h
    exact absurd (List.mem_append_right front List.mem_cons_self) hb
  | y :: front, _ :: front', _, _, hb, hb', h => by
    obtain ⟨rfl, ht⟩ := List.cons.inj h
    obtain ⟨rfl, rfl⟩ := back_inj hb hb' ht
    exact ⟨rfl, rfl⟩

/-- Where the mark may come again, one front is the other, or goes on past the mark behind it. -/
theorem cut_cases {α : Type} {x : α} {front front' back back' : List α}
    (h : front ++ x :: back = front' ++ x :: back') (hl : front.length ≤ front'.length) :
    front = front' ∨ ∃ between, front' = front ++ x :: between ∧ back = between ++ x :: back' := by
  obtain ⟨more, rfl, rest⟩ | ⟨more, rfl, rest⟩ := List.append_eq_append_iff.1 h
  · cases more with
    | nil => exact .inl (List.append_nil front).symm
    | cons y more =>
      obtain ⟨rfl, behind⟩ := List.cons.inj rest
      exact .inr ⟨more, rfl, behind⟩
  · cases more with
    | nil => exact .inl (List.append_nil front')
    | cons y more =>
      rw [List.length_append, List.length_cons] at hl
      omega

/-- A text is cut at the first of the characters that cut it. -/
theorem cutAt?_append {d : Char} {front : String} (h : d ∉ front.toList) {s back : String}
    (whole : s.toList = front.toList ++ d :: back.toList) : cutAt? d s = some (front, back) := by
  have before : ∀ c ∈ front.toList, (c != d) = true := fun c hc => bne_iff_ne.2 fun same => h (same ▸ hc)
  simp [cutAt?, whole, List.dropWhile_append_of_pos before, List.takeWhile_append_of_pos before]

theorem exists_cutAt? {d : Char} {s : String} (h : d ∈ s.toList) :
    ∃ front back, cutAt? d s = some (front, back) := by
  unfold cutAt?
  dsimp only
  split
  · exact ⟨_, _, rfl⟩
  · rename_i none
    rw [List.dropWhile_eq_nil_iff] at none
    exact absurd (none d h) (by simp)

/-- Two texts, each cut by a mark and what follows it, where the mark does not come again: the
first front is the second, or one of them takes in all that cuts the other. -/
theorem front_cases {α : Type} {x : α} {front front' mid mid' back back' : List α} (hm : x ∉ mid)
    (h : front ++ x :: (mid ++ back) = front' ++ x :: (mid' ++ back')) (hl : front.length ≤ front'.length) :
    front = front' ∨ ∃ between, front' = front ++ x :: (mid ++ between) ∧
      back = between ++ x :: (mid' ++ back') := by
  refine (cut_cases h hl).imp_right ?_
  rintro ⟨more, rfl, rest⟩
  -- The second mark comes after the first one, and so not before the first cut has ended.
  obtain ⟨between, rfl, hb⟩ | ⟨beyond, rfl, hb⟩ := List.append_eq_append_iff.1 rest
  · exact ⟨between, rfl, hb⟩
  · cases beyond with
    | nil => exact ⟨[], by simp, by simpa using hb.symm⟩
    | cons z beyond =>
      obtain ⟨rfl, -⟩ := List.cons.inj hb
      simp at hm

/-! ## Joined by a mark -/

/-- The first character of a mark does not come again in it. -/
def BeginsOnce (mark : String) : Prop := ∃ x mid, mark.toList = x :: mid ∧ x ∉ mid

/-- The text `front'` goes on where `front` ends: over the mark and through the beginning of `back`,
up to the mark where `back'` begins. -/
def RunsPast (mark front back front' back' : String) : Prop :=
  ∃ between, front' = front ++ mark ++ between ∧ back = between ++ mark ++ back'

section Joined

variable {mark front back front' back' : String}

theorem RunsPast.joined_eq (h : RunsPast mark front back front' back') :
    front ++ mark ++ back = front' ++ mark ++ back' := by
  obtain ⟨between, rfl, rfl⟩ := h
  simp only [String.append_assoc]

/-- What goes on is longer, so it is another text. -/
theorem RunsPast.ne (once : BeginsOnce mark) (h : RunsPast mark front back front' back') : front ≠ front' := by
  obtain ⟨x, mid, marked, -⟩ := once
  obtain ⟨between, rfl, -⟩ := h
  intro same
  have lengths := congrArg (·.toList.length) same
  simp [marked] at lengths

theorem runsPast_of_joined_eq (once : BeginsOnce mark) (h : front ++ mark ++ back = front' ++ mark ++ back')
    (hl : front.toList.length ≤ front'.toList.length) :
    front = front' ∧ back = back' ∨ RunsPast mark front back front' back' := by
  obtain ⟨x, mid, marked, fresh⟩ := once
  have texts := congrArg String.toList h
  simp only [String.toList_append, marked, List.append_assoc, List.cons_append] at texts
  rcases front_cases fresh texts hl with same | ⟨between, hf, hb⟩
  · rw [same] at texts
    have back := List.append_cancel_left (List.cons.inj (List.append_cancel_left texts)).2
    exact .inl ⟨String.toList_inj.1 same, String.toList_inj.1 back⟩
  · refine .inr ⟨String.ofList between, String.toList_inj.1 ?_, String.toList_inj.1 ?_⟩
    · simp [hf, marked]
    · simp [hb, marked]

/-- Two texts with a mark between them are joined to one in different ways if the first of them goes
on in one of the ways. -/
theorem joined_eq_iff (once : BeginsOnce mark) : front ++ mark ++ back = front' ++ mark ++ back' ↔
    front = front' ∧ back = back' ∨ RunsPast mark front back front' back' ∨
      RunsPast mark front' back' front back := by
  constructor
  · intro h
    rcases Nat.le_total front.toList.length front'.toList.length with hl | hl
    · exact (runsPast_of_joined_eq once h hl).imp_right .inl
    · rcases runsPast_of_joined_eq once h.symm hl with ⟨rfl, rfl⟩ | goes
      · exact .inl ⟨rfl, rfl⟩
      · exact .inr (.inr goes)
  · rintro (⟨rfl, rfl⟩ | goes | goes)
    · rfl
    · exact goes.joined_eq
    · exact goes.joined_eq.symm

end Joined

/-! ## At the end -/

theorem dropTail?_append (front tail : String) : dropTail? tail (front ++ tail) = some front := by
  rw [dropTail?]
  simp

theorem dropTail?_eq_some_iff {tail s front : String} :
    dropTail? tail s = some front ↔ s = front ++ tail := by
  refine ⟨fun h => ?_, fun h => h ▸ dropTail?_append front tail⟩
  rw [dropTail?] at h
  split at h
  · rename_i hd
    cases h
    rw [← String.toList_inj, String.toList_append, String.toList_ofList]
    exact (List.take_append_drop _ _).symm.trans (congrArg _ hd)
  · cases h

theorem dropTail?_eq_none_iff {tail s : String} : dropTail? tail s = none ↔ ∀ front, s ≠ front ++ tail := by
  rw [Option.eq_none_iff_forall_ne_some]
  exact forall_congr' fun front => not_congr dropTail?_eq_some_iff

end MetaGraph.Text

/-
Numbered pages whose sizes and totals come near the end of 64 bits. How many
items there are up to a page is counted in 64 bits, and where the number does
not fit the program stops. All pages before the first one that reaches the
total are counted, so paging always comes to that page, and never beyond it.
Whether it stops there, or the program does, is a matter of that page alone:
it may reach far beyond the total.
-/
import MetaGraph.Proofs.Join.PageCount

namespace MetaGraph.Paging

/-! ## Paging from the first page on -/

/-- What comes back for the page of a number: an answer, and how many records were found in it. -/
abbrev Answers := Nat → Json × Nat

/-- Paging comes to a page: it is the first one, or it follows one that paging came to. -/
inductive Reaches (p : Paging) (answers : Answers) : Nat → PageState → Prop
  | first : Reaches p answers 1 {}
  | next {n : Nat} {s s' : PageState} : Reaches p answers n s →
    p.advance s (answers n).1 (answers n).2 = some (true, s') → Reaches p answers (n + 1) s'

/-- Paging comes to a page and no other follows it. -/
def StopsAt (p : Paging) (answers : Answers) (n : Nat) : Prop :=
  ∃ s next, p.Reaches answers n s ∧ p.advance s (answers n).1 (answers n).2 = some (false, next)

/-- Paging comes to a page, and there the program stops. -/
def OverflowsAt (p : Paging) (answers : Answers) (n : Nat) : Prop :=
  ∃ s, p.Reaches answers n s ∧ p.advance s (answers n).1 (answers n).2 = none

section Numbered

variable {path : JsonPath} {counted : Option JsonPath} {answers : Answers} {size total n : Nat} {s : PageState}

/-- At each page its number is known, and so is the total of the first page. -/
theorem Reaches.state (told : (reportedTotal? path (answers 1).1).getD 0 = total)
    (h : (numbered size path counted).Reaches answers n s) :
    s.page = n ∧ (s.total <|> reportedTotal? path (answers n).1).getD 0 = total := by
  induction h with
  | first => exact ⟨rfl, told⟩
  | next _ follows ih =>
    obtain ⟨page, known⟩ := ih
    obtain ⟨last, -⟩ | ⟨t, same, -, -, rfl⟩ := advance_eq_some follows
    · cases last
    · rw [same] at known
      exact ⟨by rw [page], known⟩

section Found

variable (told : (reportedTotal? path (answers 1).1).getD 0 = total)
  (found : ∀ n, 0 < countedRows counted (answers n).1 (answers n).2)

include told found

/-- What follows a page that paging comes to, if the items up to it fit into 64 bits. -/
theorem Reaches.advance_of_lt (h : (numbered size path counted).Reaches answers n s) (fits : n * size < 2 ^ 64) :
    ∃ next, (numbered size path counted).advance s (answers n).1 (answers n).2 =
      some (decide (n * size < total), next) := by
  obtain ⟨page, known⟩ := h.state told
  rw [advance_counted (Nat.ne_of_gt (found n)) (by rwa [page]), page, known]
  by_cases more : n * size < total
  · exact ⟨_, by rw [if_pos more, decide_eq_true more]⟩
  · exact ⟨_, by rw [if_neg more, decide_eq_false more]⟩

theorem Reaches.advance_eq_none_iff (h : (numbered size path counted).Reaches answers n s) :
    (numbered size path counted).advance s (answers n).1 (answers n).2 = none ↔ 2 ^ 64 ≤ n * size := by
  rw [Paging.advance_eq_none_iff, (h.state told).1]
  exact and_iff_right (Nat.ne_of_gt (found n))

/-- What is compared at a page that paging comes to are the numbers themselves. -/
theorem Reaches.of_advance {more : Bool} {next : PageState} (h : (numbered size path counted).Reaches answers n s)
    (follows : (numbered size path counted).advance s (answers n).1 (answers n).2 = some (more, next)) :
    n * size < 2 ^ 64 ∧ (more = true ↔ n * size < total) := by
  have fits : n * size < 2 ^ 64 := by
    refine Nat.lt_of_not_le fun beyond => ?_
    rw [(h.advance_eq_none_iff told found).2 beyond] at follows
    cases follows
  obtain ⟨next', compared⟩ := h.advance_of_lt told found fits
  rw [compared] at follows
  refine ⟨fits, ?_⟩
  rw [← (Prod.mk.inj (Option.some.inj follows)).1, decide_eq_true_iff]

section Small

variable (given : 1 ≤ size) (small : total < 2 ^ 64)

include given small

/-- Paging comes to all pages up to the first one that reaches the total, and to no other. -/
theorem exists_reaches_iff :
    (∃ s, (numbered size path counted).Reaches answers n s) ↔ 1 ≤ n ∧ n ≤ pagesOf total size := by
  constructor
  · intro ⟨s, h⟩
    induction h with
    | first => exact ⟨Nat.le_refl 1, Nat.le_max_left ..⟩
    | @next n s _ here follows ih =>
      obtain ⟨page, known⟩ := here.state told
      obtain ⟨last, -⟩ | ⟨t, same, before, -, -⟩ := advance_eq_some follows
      · cases last
      · rw [same] at known
        rw [page, show t = total from known] at before
        exact ⟨Nat.le_add_left 1 n, (lt_pagesOf_iff ih.1 given).2 before⟩
  · intro ⟨one, within⟩
    induction n, one using Nat.le_induction with
    | base => exact ⟨{}, .first⟩
    | succ n one ih =>
      obtain ⟨s, here⟩ := ih (Nat.le_of_succ_le within)
      have before : n * size < total := (lt_pagesOf_iff one given).1 within
      obtain ⟨next, follows⟩ := here.advance_of_lt told found (Nat.lt_trans before small)
      rw [decide_eq_true before] at follows
      exact ⟨next, .next here follows⟩

/-- Only at the first page that reaches the total is it open what follows. -/
theorem Reaches.lt_or_eq (h : (numbered size path counted).Reaches answers n s) :
    n * size < total ∨ n = pagesOf total size ∧ total ≤ n * size := by
  obtain ⟨one, within⟩ := (exists_reaches_iff told found given small).1 ⟨s, h⟩
  have follows : n < pagesOf total size ↔ n * size < total := lt_pagesOf_iff one given
  omega

theorem stopsAt_iff : (numbered size path counted).StopsAt answers n ↔
    n = pagesOf total size ∧ pagesOf total size * size < 2 ^ 64 := by
  constructor
  · intro ⟨s, next, here, last⟩
    obtain ⟨fits, compared⟩ := here.of_advance told found last
    obtain before | ⟨rfl, -⟩ := here.lt_or_eq told found given small
    · cases compared.2 before
    · exact ⟨rfl, fits⟩
  · rintro ⟨rfl, fits⟩
    have first : 1 ≤ pagesOf total size := Nat.le_max_left ..
    obtain ⟨s, here⟩ := (exists_reaches_iff told found given small).2 ⟨first, Nat.le_refl _⟩
    have reaches : ¬ pagesOf total size * size < total := fun short =>
      Nat.lt_irrefl _ ((lt_pagesOf_iff first given).2 short)
    obtain ⟨next, follows⟩ := here.advance_of_lt told found fits
    rw [decide_eq_false reaches] at follows
    exact ⟨s, next, here, follows⟩

theorem overflowsAt_iff : (numbered size path counted).OverflowsAt answers n ↔
    n = pagesOf total size ∧ 2 ^ 64 ≤ pagesOf total size * size := by
  constructor
  · intro ⟨s, here, stops⟩
    have beyond := (here.advance_eq_none_iff told found).1 stops
    obtain before | ⟨rfl, -⟩ := here.lt_or_eq told found given small
    · omega
    · exact ⟨rfl, beyond⟩
  · rintro ⟨rfl, beyond⟩
    obtain ⟨s, here⟩ := (exists_reaches_iff told found given small).2 ⟨Nat.le_max_left .., Nat.le_refl _⟩
    exact ⟨s, here, (here.advance_eq_none_iff told found).2 beyond⟩

end Small

end Found

end Numbered

/-- **Where numbered pages end.** Let every page have a row and the first one report a total. Paging
comes to all pages up to the first one that reaches the total, and to no page after it. Every
comparison that is made is that of the numbers themselves. Paging stops at this page if the items up
to it fit into 64 bits, and only there; if they do not fit, the program stops at it, and nowhere
else. They always fit if the total and a page together do. -/
theorem stops_at_total_iff {path : JsonPath} {counted : Option JsonPath} {answers : Answers} {given total : Nat}
    (word : given < 2 ^ 64) (small : total < 2 ^ 64)
    (told : (reportedTotal? path (answers 1).1).getD 0 = total)
    (found : ∀ n, 0 < countedRows counted (answers n).1 (answers n).2) :
    let size := pageSize given
    let p := numbered size path counted
    let last := pagesOf total size
    (∀ n, 1 ≤ n → (n < last ↔ n * size < total)) ∧
    (∀ n, (∃ s, p.Reaches answers n s) ↔ 1 ≤ n ∧ n ≤ last) ∧
    (∀ n s more next, p.Reaches answers n s →
      p.advance s (answers n).1 (answers n).2 = some (more, next) →
        n * size < 2 ^ 64 ∧ (more = true ↔ n * size < total)) ∧
    (∀ n, p.StopsAt answers n ↔ n = last ∧ last * size < 2 ^ 64) ∧
    (∀ n, p.OverflowsAt answers n ↔ n = last ∧ 2 ^ 64 ≤ last * size) ∧
    (total + size ≤ 2 ^ 64 → last * size < 2 ^ 64) := by
  intro size p last
  have hs : 1 ≤ size := Nat.le_max_left ..
  have first : 1 ≤ last := Nat.le_max_left ..
  have before (n : Nat) (hn : 1 ≤ n) : n < last ↔ n * size < total := lt_pagesOf_iff hn hs
  refine ⟨before, fun n => exists_reaches_iff told found hs small,
    fun n s more next here follows => here.of_advance told found follows,
    fun n => stopsAt_iff told found hs small, fun n => overflowsAt_iff told found hs small, fun room => ?_⟩
  by_cases one : last = 1
  · have : size = max 1 given := rfl
    rw [one]
    omega
  · have start := (before (last - 1) (by omega)).1 (by omega)
    rw [Nat.sub_mul] at start
    omega

/-- The path of a total. -/
def totalPath : JsonPath := ⟨"total", [.of true [.of false [.name "total"]]]⟩

/-- Every page has a record and tells the same total. -/
def telling (total : Nat) : Answers := fun _ => (.object [("total", .ofNat total)], 1)

theorem found_telling (total n : Nat) : 0 < countedRows none (telling total n).1 (telling total n).2 := Nat.one_pos

/-- Two pages that together come to within two of 2^64, although a third would not fit. -/
theorem stops_at_total_half : 9223372036854775807 < 2 ^ 64 ∧ 18446744073709551614 < 2 ^ 64 ∧
    (reportedTotal? totalPath (telling 18446744073709551614 1).1).getD 0 = 18446744073709551614 ∧
    (∀ n, 0 < countedRows none (telling 18446744073709551614 n).1 (telling 18446744073709551614 n).2) ∧
    (numbered (pageSize 9223372036854775807) totalPath none).StopsAt (telling 18446744073709551614) 2 := by
  have told : (reportedTotal? totalPath (telling 18446744073709551614 1).1).getD 0 = 18446744073709551614 := by
    decide +kernel
  have found := found_telling 18446744073709551614
  have word : 9223372036854775807 < 2 ^ 64 := by decide
  obtain ⟨-, -, -, stops, -⟩ := stops_at_total_iff word (by decide) told found
  have last : pagesOf 18446744073709551614 (pageSize 9223372036854775807) = 2 := by decide
  rw [last] at stops
  exact ⟨word, by decide, told, found, (stops 2).2 ⟨rfl, by decide⟩⟩

/-- The fourth page of a quarter of 2^64 reaches all of a total of one less, but the items up to it do
not fit: the program stops there, and paging stops nowhere. -/
theorem overflows_at_total :
    (reportedTotal? totalPath (telling 18446744073709551615 1).1).getD 0 = 18446744073709551615 ∧
    (∀ n, 0 < countedRows none (telling 18446744073709551615 n).1 (telling 18446744073709551615 n).2) ∧
    (∀ n, 1 ≤ n → (n < 4 ↔ n * pageSize 4611686018427387904 < 18446744073709551615)) ∧
    ¬ 4 * pageSize 4611686018427387904 < 2 ^ 64 ∧
    (numbered (pageSize 4611686018427387904) totalPath none).OverflowsAt (telling 18446744073709551615) 4 ∧
    ∀ n, ¬ (numbered (pageSize 4611686018427387904) totalPath none).StopsAt (telling 18446744073709551615) n := by
  have told : (reportedTotal? totalPath (telling 18446744073709551615 1).1).getD 0 = 18446744073709551615 := by
    decide +kernel
  have found := found_telling 18446744073709551615
  have given : 1 ≤ pageSize 4611686018427387904 := by decide
  have last : pagesOf 18446744073709551615 (pageSize 4611686018427387904) = 4 := by decide
  have beyond : 2 ^ 64 ≤ pagesOf 18446744073709551615 (pageSize 4611686018427387904) *
      pageSize 4611686018427387904 := by decide
  refine ⟨told, found, fun n hn => ?_, by decide, ?_, fun n stops => ?_⟩
  · rw [← last]
    exact lt_pagesOf_iff hn given
  · exact (overflowsAt_iff told found given (by decide)).2 ⟨last.symm, beyond⟩
  · exact Nat.not_lt.2 beyond ((stopsAt_iff told found given (by decide)).1 stops).2

end MetaGraph.Paging

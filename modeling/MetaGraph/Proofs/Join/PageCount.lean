/-
How many numbered pages a record can have. The first page tells how many
items there are, and from then on it does not matter what later pages tell:
no page is asked for that would start after the last of these items.
-/
import Mathlib.Algebra.GroupWithZero.Nat
import MetaGraph.Proofs.Join.EmptyResult
import MetaGraph.Proofs.Join.Moves

namespace MetaGraph

/-! ## Numbered pages -/

namespace Paging

variable {path : JsonPath} {counted : Option JsonPath} {size page total rows : Nat} {s next : PageState}
  {response : Json}

/-- How many pages so many items are on; there is always a first page. -/
def pagesOf (total size : Nat) : Nat := max 1 ((total + size - 1) / size)

theorem lt_pagesOf_iff (hp : 1 ≤ page) (hs : 1 ≤ size) : page < pagesOf total size ↔ page * size < total := by
  have rounded : page + 1 ≤ (total + size - 1) / size ↔ (page + 1) * size ≤ total + size - 1 :=
    Nat.le_div_iff_mul_le hs
  rw [Nat.succ_mul] at rounded
  unfold pagesOf
  omega

/-- Below 2^64 items are counted. -/
theorem reached?_of_lt (h : page * size < 2 ^ 64) : reached? page size = some (page * size) := if_pos h

theorem reached?_of_le (h : 2 ^ 64 ≤ page * size) : reached? page size = none := if_neg (Nat.not_lt.2 h)

/-- The rows that a page counts: what a path of its own finds there, or its records. -/
def countedRows (counted : Option JsonPath) (response : Json) (rows : Nat) : Nat :=
  match counted with
  | some path => (path.find response).length
  | none => rows

theorem advance_numbered : (numbered size path counted).advance s response rows =
    if countedRows counted response rows = 0 then some (false, {})
    else
      (reached? s.page size).map fun items =>
        if items < (s.total <|> reportedTotal? path response).getD 0 then
          (true, ⟨s.page + 1, s.total <|> reportedTotal? path response⟩)
        else (false, {}) := rfl

/-- After a page without a row the first page is due again. -/
theorem advance_bare (bare : countedRows counted response rows = 0) :
    (numbered size path counted).advance s response rows = some (false, {}) := by
  rw [advance_numbered, if_pos bare]

/-- A page with a row is the last if it reaches the total that is known by then. -/
theorem advance_counted (found : countedRows counted response rows ≠ 0) (fits : s.page * size < 2 ^ 64) :
    (numbered size path counted).advance s response rows =
      some (if s.page * size < (s.total <|> reportedTotal? path response).getD 0 then
        (true, ⟨s.page + 1, s.total <|> reportedTotal? path response⟩) else (false, {})) := by
  rw [advance_numbered, if_neg found, reached?_of_lt fits, Option.map_some]

/-- **Where the program stops**: at a page with a row, if the items up to it are beyond 64 bits. -/
theorem advance_eq_none_iff : (numbered size path counted).advance s response rows = none ↔
    countedRows counted response rows ≠ 0 ∧ 2 ^ 64 ≤ s.page * size := by
  by_cases bare : countedRows counted response rows = 0
  · rw [advance_bare bare]
    exact ⟨nofun, fun both => absurd bare both.1⟩
  by_cases fits : s.page * size < 2 ^ 64
  · rw [advance_counted bare fits]
    exact ⟨nofun, fun both => absurd fits (Nat.not_lt.2 both.2)⟩
  · have beyond := Nat.le_of_not_lt fits
    rw [advance_numbered, if_neg bare, reached?_of_le beyond]
    exact ⟨fun _ => ⟨bare, beyond⟩, fun _ => rfl⟩

/-- What follows a page: the first one, of another record, or the next one, if the page does not
reach the total that is known by then. -/
theorem advance_eq_some {more : Bool} (h : (numbered size path counted).advance s response rows = some (more, next)) :
    (more = false ∧ next = {}) ∨ ∃ total, (s.total <|> reportedTotal? path response) = some total ∧
      s.page * size < total ∧ more = true ∧ next = ⟨s.page + 1, some total⟩ := by
  by_cases bare : countedRows counted response rows = 0
  · rw [advance_bare bare] at h
    cases h
    exact .inl ⟨rfl, rfl⟩
  by_cases fits : s.page * size < 2 ^ 64
  · rw [advance_counted bare fits] at h
    split at h <;> cases h
    · rename_i inside
      cases hk : (s.total <|> reportedTotal? path response) with
      | none =>
        rw [hk] at inside
        exact absurd inside (Nat.not_lt_zero _)
      | some total =>
        rw [hk] at inside
        exact .inr ⟨total, rfl, inside, rfl, rfl⟩
    · exact .inl ⟨rfl, rfl⟩
  · rw [advance_eq_none_iff.2 ⟨bare, Nat.le_of_not_lt fits⟩] at h
    cases h

end Paging

/-! ## The pages of a record -/

namespace Chain

variable {σ : Type} {net : Network σ} {q : QueryStep} {inner : Chain} {most : Nat}

/-- So many pages at most are asked for until the step is done with its record, ready for the
first page of the next one, or until one of these pages cannot be had. -/
inductive OverWithin (net : Network σ) (q : QueryStep) (inner : Chain) (c : Chain) (s : σ) (most : Nat) : Prop
  | done {n : Nat} {out : List Record} {s' : σ} :
    n ≤ most → Run net c s n out (q.done {} inner) s' → OverWithin net q inner c s most
  | failed {n : Nat} {out : List Record} {c' c'' : Chain} {s' s'' : σ} {e : RestError} :
    n < most → Run net c s n out c' s' → c'.move net s' = (.failed e, c'', s'') →
      OverWithin net q inner c s most

theorem OverWithin.after {c c' : Chain} {s s' : σ} {n : Nat} {out : List Record}
    (first : Run net c s n out c' s') (h : OverWithin net q inner c' s' most) :
    OverWithin net q inner c s (n + most) := by
  cases h with
  | done hn run => exact .done (by omega) (first.append run)
  | failed hn run refused => exact .failed (by omega) (first.append run) refused

/-- A chain whose next move is that of a step at a record is over within as many pages. -/
theorem OverWithin.of_move_eq {c : Chain} {record : Record} {page : PageState} {s s' : σ}
    (same : c.move net s = (q.standing record page inner).move net s')
    (h : OverWithin net q inner (q.standing record page inner) s' most) :
    OverWithin net q inner c s most := by
  cases h with
  | done hn run => exact .done hn (run.of_move_eq same (QueryStep.done_ne_standing _))
  | failed hn run refused =>
    cases run with
    | rest => exact .failed hn (.rest c s) (same.trans refused)
    | working hm rest => exact .failed hn (.working (same.trans hm) rest) refused
    | record hm rest => exact .failed hn (.record (same.trans hm) rest) refused

end Chain

namespace QueryStep

variable {σ : Type} {net : Network σ} {q : QueryStep} {record : Record} {page : PageState} {inner : Chain}
  {s s' : σ} {size total : Nat} {path : JsonPath} {counted : Option JsonPath}

/-- What a page brings, the paging tells from the rows on it. -/
theorem advance_of_readPage {address : String} {response : Json} {r : Option Page}
    (h : q.readPage record page address response = r.map .ok) :
    ∃ rows, q.paging.advance page response rows = r.map fun p => (p.more, p.state) := by
  cases hr : q.rowsOf record address response with
  | error e =>
    simp only [readPage, hr] at h
    cases r <;> cases h
  | ok found =>
    obtain ⟨records, rows⟩ := found
    simp only [readPage, hr] at h
    refine ⟨rows, ?_⟩
    cases ha : q.paging.advance page response rows <;> rw [ha] at h <;> cases r <;> cases h <;> rfl

/-- A page that was had is one whose record was dropped, or the paging tells what follows it. -/
theorem fetchPage_ok {p : Page} (h : q.fetchPage q.requestParams net record page s = (some (.ok p), s')) :
    p = .dropped ∨ ∃ address response rows, q.serve net record page s = (.ok (some (address, response)), s') ∧
      q.paging.advance page response rows = some (p.more, p.state) := by
  rw [fetchPage_eq] at h
  rcases hs : q.serve net record page s with ⟨e | (_ | ⟨address, response⟩), s₁⟩ <;> rw [hs] at h
  · cases h
  · cases h
    exact .inl rfl
  · obtain ⟨brought, rfl⟩ := Prod.mk.inj h
    obtain ⟨rows, follows⟩ := advance_of_readPage (r := some p) brought
    exact .inr ⟨address, response, rows, rfl, follows⟩

/-- The program stops at a page that is served, where the paging says so. -/
theorem fetchPage_none (h : q.fetchPage q.requestParams net record page s = (none, s')) :
    ∃ address response rows, q.serve net record page s = (.ok (some (address, response)), s') ∧
      q.paging.advance page response rows = none := by
  rw [fetchPage_eq] at h
  rcases hs : q.serve net record page s with ⟨e | (_ | ⟨address, response⟩), s₁⟩ <;> rw [hs] at h
  · cases h
  · cases h
  · obtain ⟨brought, rfl⟩ := Prod.mk.inj h
    obtain ⟨rows, stops⟩ := advance_of_readPage (r := none) brought
    exact ⟨address, response, rows, rfl, stops⟩

/-- What follows a numbered page: the first page, of another record, or the next one. -/
theorem fetchPage_numbered (numbered : q.paging = .numbered size path counted) {p : Page}
    (h : q.fetchPage q.requestParams net record page s = (some (.ok p), s')) :
    (p.more = false ∧ p.state = {}) ∨ ∃ address response total,
      q.serve net record page s = (.ok (some (address, response)), s') ∧
        (page.total <|> Paging.reportedTotal? path response) = some total ∧
        page.page * size < total ∧ p.more = true ∧ p.state = ⟨page.page + 1, some total⟩ := by
  obtain rfl | ⟨address, response, rows, served, follows⟩ := fetchPage_ok h
  · exact .inl ⟨rfl, rfl⟩
  rw [numbered] at follows
  obtain last | ⟨total, known, before, more, next⟩ := Paging.advance_eq_some follows
  · exact .inl last
  · exact .inr ⟨address, response, total, served, known, before, more, next⟩

/-- Items up to a numbered page that is below 2^64 are counted. -/
theorem fetchPage_counts (numbered : q.paging = .numbered size path counted)
    (fits : ∀ address response, q.serve net record page s = (.ok (some (address, response)), s') →
      page.page * size < 2 ^ 64) : q.fetchPage q.requestParams net record page s ≠ (none, s') := by
  intro h
  obtain ⟨address, response, rows, served, beyond⟩ := fetchPage_none h
  rw [numbered] at beyond
  have := (Paging.advance_eq_none_iff.1 beyond).2
  have := fits address response served
  omega

/-- A page of a record whose total is known: it cannot be had, it is the last one, or it does not
reach the total. -/
theorem page_of_total (numbered : q.paging = .numbered size path counted)
    (small : total + size < 2 ^ 64) {p : Nat} (inside : (p - 1) * size < total) (s : σ) :
    (∃ e c s', (q.standing record ⟨p, some total⟩ inner).move net s = (.failed e, c, s')) ∨
      ∃ out s', Chain.Run net (q.standing record ⟨p, some total⟩ inner) s 1 out (q.done {} inner) s' ∨
        (p * size < total ∧ Chain.Run net (q.standing record ⟨p, some total⟩ inner) s 1 out
          (q.standing record ⟨p + 1, some total⟩ inner) s') := by
  have fits : p * size < 2 ^ 64 := by
    rw [Nat.sub_mul] at inside
    omega
  rcases hf : q.fetchPage q.requestParams net record ⟨p, some total⟩ s with ⟨_ | e | fetched, s'⟩
  · exact absurd hf (fetchPage_counts numbered fun _ _ _ => fits)
  · exact .inl ⟨e, _, s', move_failed hf⟩
  · refine .inr ⟨fetched.records, s', ?_⟩
    have run : Chain.Run net (q.standing record _ inner) s 1 _ _ _ := run_page hf
    obtain ⟨last, first⟩ | ⟨_, _, total', _, known, before, more, next⟩ := fetchPage_numbered numbered hf
    · rw [last, first] at run
      exact .inl run
    · have same : total = total' := Option.some.inj known
      subst same
      rw [more, next] at run
      exact .inr ⟨before, run⟩

/-- Once a total is known, no page is asked for that starts after it. -/
theorem over_of_total (numbered : q.paging = .numbered size path counted) (hs : 1 ≤ size)
    (small : total + size < 2 ^ 64) {left : Nat} {p : Nat} (hp : 1 ≤ p) (inside : (p - 1) * size < total)
    (hl : p + left = Paging.pagesOf total size) (s : σ) :
    Chain.OverWithin net q inner (q.standing record ⟨p, some total⟩ inner) s (left + 1) := by
  induction left generalizing p s with
  | zero =>
    obtain ⟨e, c, s', refused⟩ | ⟨out, s', run | ⟨before, -⟩⟩ := page_of_total numbered small inside s
    · exact .failed (Nat.zero_lt_succ _) (.rest _ _) refused
    · exact .done (Nat.le_refl 1) run
    · have := (Paging.lt_pagesOf_iff hp hs).2 before
      omega
  | succ left ih =>
    obtain ⟨e, c, s', refused⟩ | ⟨out, s', run | ⟨before, run⟩⟩ := page_of_total numbered small inside s
    · exact .failed (Nat.zero_lt_succ _) (.rest _ _) refused
    · exact .done (by omega) run
    · have rest := (ih (Nat.le_add_left 1 p) (by simpa using before) (by omega) s').after run
      rwa [show 1 + (left + 1) = left + 1 + 1 by omega] at rest

/-- **The first page's total bounds the pages**, whatever the server answers and later pages
tell. -/
theorem over_of_first_total (numbered : q.paging = .numbered size path counted) (hs : 1 ≤ size)
    (small : total + size < 2 ^ 64)
    (first : ∀ address response s', q.serve net record {} s = (.ok (some (address, response)), s') →
      (Paging.reportedTotal? path response).getD 0 = total) :
    Chain.OverWithin net q inner (q.standing record {} inner) s (Paging.pagesOf total size) := by
  have one : 1 ≤ Paging.pagesOf total size := Nat.le_max_left ..
  rcases hf : q.fetchPage q.requestParams net record {} s with ⟨_ | e | fetched, s'⟩
  · exact absurd hf (fetchPage_counts numbered fun _ _ _ => by dsimp only; omega)
  · exact .failed one (.rest _ _) (move_failed hf)
  · have run : Chain.Run net (q.standing record _ inner) s 1 _ _ _ := run_page hf
    obtain ⟨last, again⟩ | ⟨address, response, total', served, known, before, more, next⟩ :=
      fetchPage_numbered numbered hf
    · rw [last, again] at run
      exact .done one run
    · have same := first address response s' served
      rw [show Paging.reportedTotal? path response = some total' from known] at same
      obtain rfl : total' = total := same
      rw [more, next] at run
      have second := (Paging.lt_pagesOf_iff (Nat.le_refl 1) hs).2 before
      have rest : Chain.OverWithin net q inner (q.standing record ⟨2, some total'⟩ inner) s'
          (Paging.pagesOf total' size - 2 + 1) :=
        over_of_total numbered hs small (by omega) (by simpa using before) (by omega) s'
      have whole := rest.after run
      rwa [show 1 + (Paging.pagesOf total' size - 2 + 1) = Paging.pagesOf total' size by omega] at whole

end QueryStep

end MetaGraph

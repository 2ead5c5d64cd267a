/-
The policy of a step for records for which nothing is found. It is to judge
a record by all of its pages, but a step applies it to each page on its own:
to a page that matches nothing among others that match, and to every page
of a record of which no page matches. The main statement says for which
pages that makes no difference.
-/
import MetaGraph.Proofs.Graph.Validity
import MetaGraph.Proofs.Join.Attempts
import MetaGraph.Proofs.Join.Pulling
import MetaGraph.Rest.Config

namespace MetaGraph

open Join

/-! ## The pages of a record -/

/-- A page that was served for a record: the records it joins, or nothing if it matches
nothing. -/
structure ServedPage where
  address : String
  joined : Option (List Record)

namespace QueryStep

variable {σ : Type}

/-- What the page of a record is answered with; nothing if the answer is a status that drops
the record. -/
def serve (q : QueryStep) (net : Network σ) (record : Record) (page : PageState) (s : σ) :
    Except RestError (Option (String × Json)) × σ :=
  match q.pageUrl record page with
  | .error e => (.error e, s)
  | .ok url =>
    match q.retry.run net.wait (q.requestParams.fetch net url) s with
    | (.error e, s) => (if e.hasStatus q.skipStatuses then .ok none else .error e, s)
    | (.ok response, s) => (.ok (some (url.text, response)), s)

/-- The records that an answer joins with a record and their rows, whatever the policy; nothing
if the answer matches nothing. -/
def found (q : QueryStep) (record : Record) (address : String) (response : Json) :
    Except RestError (Option (List Record × Nat)) :=
  if q.path.find response = [] then .ok none
  else (q.rowsOf record address response).map some

/-- The pages of a record from a given one on, each as it is served, until the paging of the
step or a status that drops the record ends them, or until there is a fault or the program
stops. The last value is what then ends the answers for the record. -/
inductive Served (q : QueryStep) (net : Network σ) (record : Record) :
    PageState → σ → List ServedPage → Move → Prop
  | dropped {page : PageState} {s s' : σ} :
    q.serve net record page s = (.ok none, s') → Served q net record page s [] .finished
  | refused {page : PageState} {s s' : σ} {e : RestError} :
    q.serve net record page s = (.error e, s') → Served q net record page s [] (.failed e)
  | uneven {page : PageState} {s s' : σ} {address : String} {response : Json} {e : RestError} :
    q.serve net record page s = (.ok (some (address, response)), s') →
      q.found record address response = .error e → Served q net record page s [] (.failed e)
  | last {page next : PageState} {s s' : σ} {address : String} {response : Json}
      {result : Option (List Record × Nat)} :
    q.serve net record page s = (.ok (some (address, response)), s') →
      q.found record address response = .ok result →
      q.paging.advance page response ((result.map Prod.snd).getD 0) = some (false, next) →
      Served q net record page s [⟨address, result.map Prod.fst⟩] .finished
  | more {page next : PageState} {s s' : σ} {address : String} {response : Json}
      {result : Option (List Record × Nat)} {rest : List ServedPage} {closing : Move} :
    q.serve net record page s = (.ok (some (address, response)), s') →
      q.found record address response = .ok result →
      q.paging.advance page response ((result.map Prod.snd).getD 0) = some (true, next) →
      Served q net record next s' rest closing →
      Served q net record page s (⟨address, result.map Prod.fst⟩ :: rest) closing
  /-- Nothing comes out of a page on which the program stops. -/
  | overflow {page : PageState} {s s' : σ} {address : String} {response : Json}
      {result : Option (List Record × Nat)} :
    q.serve net record page s = (.ok (some (address, response)), s') →
      q.found record address response = .ok result → (result = none → q.onEmpty ≠ .fail) →
      q.paging.advance page response ((result.map Prod.snd).getD 0) = none →
      Served q net record page s [] .overflow
  /-- Under `fail` a page without a match has been seen before the program would stop. -/
  | bareOverflow {page : PageState} {s s' : σ} {address : String} {response : Json} :
    q.serve net record page s = (.ok (some (address, response)), s') →
      q.found record address response = .ok none → q.onEmpty = .fail →
      q.paging.advance page response 0 = none →
      Served q net record page s [⟨address, none⟩] .overflow

/-! ## The policy for the record and for each page -/

/-- The joined records of some pages as answers. -/
def joinedAnswers (pages : List ServedPage) : List Move :=
  pages.flatMap fun page => (page.joined.getD []).map .record

/-- The answers for a record of which all pages were seen: the joined records of its pages,
and the policy has a say only if no page matches. -/
def judged (q : QueryStep) (record : Record) (pages : List ServedPage) (closing : Move) : List Move :=
  if ∃ page ∈ pages, page.joined.isSome then joinedAnswers pages ++ [closing]
  else
    match pages, q.onEmpty with
    | [], _ => [closing]
    | _ :: _, .passThrough => [.record record, closing]
    | _ :: _, .skip => [closing]
    | page :: _, .fail => [.failed (.noResult page.address q.path.source)]

/-- The answers for a page, and those after it unless the policy has the chain fail. -/
def pageAnswers (q : QueryStep) (record : Record) (page : ServedPage) (rest : List Move) : List Move :=
  match page.joined, q.onEmpty with
  | some records, _ => records.map .record ++ rest
  | none, .passThrough => .record record :: rest
  | none, .skip => rest
  | none, .fail => [.failed (.noResult page.address q.path.source)]

/-- The answers for a record if the policy has its say on each page. -/
def pagewise (q : QueryStep) (record : Record) (closing : Move) (pages : List ServedPage) : List Move :=
  pages.foldr (q.pageAnswers record) [closing]

/-! ## Where the two agree -/

section Agreement

variable {q : QueryStep} {record : Record} {closing : Move}

@[simp] theorem pagewise_nil : q.pagewise record closing [] = [closing] := rfl

@[simp] theorem pagewise_cons (page : ServedPage) (rest : List ServedPage) :
    q.pagewise record closing (page :: rest) =
      q.pageAnswers record page (q.pagewise record closing rest) := rfl

theorem pagewise_of_matched {pages : List ServedPage} (h : ∀ page ∈ pages, page.joined.isSome) :
    q.pagewise record closing pages = joinedAnswers pages ++ [closing] := by
  induction pages with
  | nil => rfl
  | cons page rest ih =>
    obtain ⟨hp, hrest⟩ := List.forall_mem_cons.1 h
    obtain ⟨address, _ | records⟩ := page
    · cases hp
    · simp [pageAnswers, joinedAnswers, ih hrest]

theorem pagewise_of_skip (hq : q.onEmpty = .skip) (pages : List ServedPage) :
    q.pagewise record closing pages = joinedAnswers pages ++ [closing] := by
  induction pages with
  | nil => rfl
  | cons page rest ih =>
    obtain ⟨address, _ | records⟩ := page <;> simp [pageAnswers, joinedAnswers, hq, ih]

/-- Under `passThrough` each page without a match adds one answer. -/
theorem length_pagewise (hq : q.onEmpty = .passThrough) (pages : List ServedPage) :
    (q.pagewise record closing pages).length =
      (joinedAnswers pages).length + pages.countP (·.joined.isNone) + 1 := by
  induction pages with
  | nil => rfl
  | cons page rest ih =>
    obtain ⟨address, _ | records⟩ := page
    · have here : joinedAnswers (⟨address, none⟩ :: rest) = joinedAnswers rest := rfl
      rw [here, List.countP_cons_of_pos (by rfl), pagewise_cons]
      simp only [pageAnswers, hq, List.length_cons, ih]
      omega
    · have here : joinedAnswers (⟨address, some records⟩ :: rest) =
          records.map .record ++ joinedAnswers rest := rfl
      rw [here, List.countP_cons_of_neg (by simp), pagewise_cons]
      simp only [pageAnswers, List.length_append, ih]
      omega

/-- Under `fail` the first page without a match is the end. -/
theorem getLast?_pagewise (record : Record) (closing : Move) (hq : q.onEmpty = .fail) {pages : List ServedPage}
    (h : ∃ page ∈ pages, page.joined = none) : ∃ address,
      (q.pagewise record closing pages).getLast? = some (.failed (.noResult address q.path.source)) := by
  induction pages with
  | nil => simp at h
  | cons page rest ih =>
    obtain ⟨address, _ | records⟩ := page
    · exact ⟨address, by simp [pageAnswers, hq]⟩
    · have later : ∃ page ∈ rest, page.joined = none := by simpa using h
      obtain ⟨address, ih⟩ := ih later
      exact ⟨address, by simp [pageAnswers, List.getLast?_append, ih]⟩

/-- Whether it makes no difference that the policy has its say on each page. -/
def Unaffected (q : QueryStep) (pages : List ServedPage) : Prop :=
  (q.onEmpty = .passThrough → (∀ page ∈ pages, page.joined.isSome) ∨ pages.length ≤ 1) ∧
    (q.onEmpty = .fail → (∀ page ∈ pages, page.joined.isSome) ∨ ∀ page ∈ pages, page.joined.isNone)

/-- With a match on some page, all pages have to match unless those without are skipped. -/
theorem pagewise_eq_joined_iff (hc : ∀ address path, closing ≠ .failed (.noResult address path))
    {pages : List ServedPage} (hs : ∃ page ∈ pages, page.joined.isSome) :
    q.pagewise record closing pages = joinedAnswers pages ++ [closing] ↔ q.Unaffected pages := by
  by_cases hall : ∀ page ∈ pages, page.joined.isSome
  · exact ⟨fun _ => ⟨fun _ => .inl hall, fun _ => .inl hall⟩, fun _ => pagewise_of_matched hall⟩
  obtain ⟨matched, hm, hms⟩ := hs
  obtain ⟨bare, hb, hbn⟩ : ∃ page ∈ pages, page.joined = none := by simpa using hall
  cases hq : q.onEmpty with
  | skip => simp [pagewise_of_skip hq, Unaffected, hq]
  | passThrough =>
    have short : ¬ pages.length ≤ 1 := by
      intro hl
      have : matched = bare := by
        match pages, hl with
        | [page], _ => rw [List.mem_singleton.1 hm, List.mem_singleton.1 hb]
      simp [this, hbn] at hms
    have longer : 0 < pages.countP (·.joined.isNone) :=
      List.countP_pos_iff.2 ⟨bare, hb, by simp [hbn]⟩
    refine ⟨fun h => absurd (congrArg List.length h) ?_, fun h => ?_⟩
    · rw [length_pagewise hq, List.length_append, List.length_singleton]
      omega
    · rcases h.1 hq with h | h
      · exact absurd h hall
      · exact absurd h short
  | fail =>
    refine ⟨fun h => ?_, fun h => ?_⟩
    · obtain ⟨address, last⟩ := getLast?_pagewise record closing hq ⟨bare, hb, hbn⟩
      rw [h, List.getLast?_concat] at last
      exact absurd (Option.some.inj last) (hc _ _)
    · rcases h.2 hq with h | h
      · exact absurd h hall
      · have : matched.joined = none := by simpa using h matched hm
        simp [this] at hms

theorem pagewise_eq_judged_iff (hc : ∀ address path, closing ≠ .failed (.noResult address path))
    (pages : List ServedPage) :
    q.pagewise record closing pages = q.judged record pages closing ↔ q.Unaffected pages := by
  unfold judged
  split
  · rename_i hs
    exact pagewise_eq_joined_iff hc hs
  rename_i hn
  have hn : ∀ page ∈ pages, page.joined = none := by simpa using hn
  match pages, hn with
  | [], _ => simp [pagewise, Unaffected]
  | ⟨address, joined⟩ :: rest, hn =>
    obtain rfl : joined = none := hn _ List.mem_cons_self
    have hrest : ∀ page ∈ rest, page.joined = none := fun page hp => hn page (List.mem_cons_of_mem _ hp)
    have nothing : joinedAnswers (⟨address, none⟩ :: rest) = [] := by
      simpa [joinedAnswers] using fun page hp => by simp [hrest page hp]
    cases hq : q.onEmpty with
    | skip => simp [hq, pagewise_of_skip hq, nothing, Unaffected]
    | fail => simpa [pageAnswers, hq, Unaffected] using hrest
    | passThrough =>
      have one : q.Unaffected (⟨address, none⟩ :: rest) ↔ rest = [] := by
        simp [Unaffected, hq]
      rw [one]
      constructor
      · intro h
        have h := congrArg List.length h
        rw [length_pagewise hq] at h
        have : rest.countP (·.joined.isNone) = rest.length :=
          List.countP_eq_length.2 fun page hp => by simp [hrest page hp]
        simp [this] at h
        exact List.length_eq_zero_iff.1 (by omega)
      · rintro rfl
        simp [pageAnswers, hq]

end Agreement

/-! ## From pages to calls -/

section Pages

variable {q : QueryStep} {net : Network σ} {record : Record}

/-- What a step makes of a page, by what is served for it. -/
theorem fetchPage_eq (page : PageState) (s : σ) :
    q.fetchPage q.requestParams net record page s =
      match q.serve net record page s with
      | (.error e, s) => (some (.error e), s)
      | (.ok none, s) => (some (.ok .dropped), s)
      | (.ok (some (address, response)), s) => (q.readPage record page address response, s) := by
  rw [fetchPage, serve]
  cases q.pageUrl record page with
  | error e => rfl
  | ok url =>
    simp only
    rcases q.retry.run net.wait (q.requestParams.fetch net url) s with ⟨e | response, s⟩
    · by_cases h : e.hasStatus q.skipStatuses = true <;> simp [h]
    · rfl

/-- The records of a page: what it joins, or what the policy makes of a page without a match. -/
theorem rowsOf_of_found {address : String} {response : Json} {found : Option (List Record × Nat)}
    (h : q.found record address response = .ok found) :
    q.rowsOf record address response =
      match found, q.onEmpty with
      | some result, _ => .ok result
      | none, .passThrough => .ok ([record], 0)
      | none, .skip => .ok ([], 0)
      | none, .fail => .error (.noResult address q.path.source) := by
  rw [QueryStep.found] at h
  split at h
  · rename_i hp
    cases h
    rw [rowsOf, hp]
    cases q.onEmpty <;> rfl
  · cases hr : q.rowsOf record address response with
    | error e => rw [hr] at h; cases h
    | ok result => rw [hr] at h; cases h; rfl

theorem rowsOf_of_found_error {address : String} {response : Json} {e : RestError}
    (h : q.found record address response = .error e) :
    q.rowsOf record address response = .error e := by
  rw [found] at h
  split at h
  · cases h
  · cases hr : q.rowsOf record address response with
    | error e => rw [hr] at h; cases h; rfl
    | ok result => rw [hr] at h; cases h

theorem answers_forEach_emit (records : List Record) (s : σ) (next : σ → Trace σ) :
    (((forEach emit records s).andThen next).answers).map Prod.fst =
      records.map .record ++ ((next s).answers).map Prod.fst := by
  induction records with
  | nil => rfl
  | cons r rest ih =>
    simp only [forEach, emit, Trace.andThen, Trace.answers, List.map_cons, List.cons_append]
    rw [ih]

/-- A page that is served answers as the policy has its say on it. -/
theorem pages_served {page next : PageState} {s s' : σ} {address : String} {response : Json}
    {result : Option (List Record × Nat)} {more : Bool}
    (h : q.serve net record page s = (.ok (some (address, response)), s'))
    (hf : q.found record address response = .ok result)
    (ha : q.paging.advance page response ((result.map Prod.snd).getD 0) = some (more, next)) (b : Nat) :
    ((pages net q record emit (b + 1) page s).answers).map Prod.fst =
      q.pageAnswers record ⟨address, result.map Prod.fst⟩
        (if more then ((pages net q record emit b next s').answers).map Prod.fst else [.finished]) := by
  rw [pages_succ, fetchPage_eq, h]
  simp only [readPage, rowsOf_of_found hf]
  have close (more : Bool) : (if more then pages net q record emit b next s' else .finished s').answers.map
      Prod.fst = if more then ((pages net q record emit b next s').answers).map Prod.fst else [.finished] := by
    cases more <;> rfl
  cases result with
  | some result =>
    simp only [Option.map_some, Option.getD_some] at ha
    simp only [ha, Trace.answers, answers_forEach_emit, pageAnswers, Option.map_some, close]
  | none =>
    simp only [Option.map_none, Option.getD_none] at ha
    cases hq : q.onEmpty with
    | fail => simp only [pageAnswers, hq]; rfl
    | skip | passThrough =>
      simp only [ha, Trace.answers, answers_forEach_emit, pageAnswers, Option.map_some, Option.map_none, hq, close]
      rfl

/-- The loop over the pages of a record answers as the policy has its say on each page. -/
theorem Served.pages_answers {page : PageState} {s : σ} {served : List ServedPage} {closing : Move}
    (h : q.Served net record page s served closing) :
    ∃ b, ((pages net q record emit b page s).answers).map Prod.fst = q.pagewise record closing served := by
  induction h with
  | dropped h | refused h =>
    refine ⟨1, ?_⟩
    rw [pages_succ, fetchPage_eq, h]
    rfl
  | uneven h hf =>
    refine ⟨1, ?_⟩
    rw [pages_succ, fetchPage_eq, h]
    simp only [readPage, rowsOf_of_found_error hf]
    rfl
  | last h hf ha => exact ⟨1, pages_served h hf ha 0⟩
  | more h hf ha _ ih =>
    obtain ⟨b, hb⟩ := ih
    exact ⟨b + 1, by rw [pages_served h hf ha b, if_pos rfl, hb, pagewise_cons]⟩
  | @overflow _ _ _ _ _ result h hf hp ha =>
    refine ⟨1, ?_⟩
    rw [pages_succ, fetchPage_eq, h]
    simp only [readPage, rowsOf_of_found hf]
    cases result with
    | some result => simp only [Option.map_some, Option.getD_some] at ha; simp only [ha]; rfl
    | none =>
      simp only [Option.map_none, Option.getD_none] at ha
      cases hq : q.onEmpty with
      | fail => exact absurd hq (hp rfl)
      | skip | passThrough => simp only [ha]; rfl
  | bareOverflow h hf hq ha =>
    refine ⟨1, ?_⟩
    rw [pages_succ, fetchPage_eq, h]
    simp only [readPage, rowsOf_of_found hf, hq, pagewise_cons, pageAnswers]
    rfl

/-! ## Faults that end a record -/

theorem fetch_ne_noResult {p : RequestParams} {url : Url} {s s' : σ} {e : RestError}
    (h : p.fetch net url s = (.error e, s')) (address path : String) : e ≠ .noResult address path := by
  rintro rfl
  rw [RequestParams.fetch] at h
  split at h
  · cases h
  · rename_i request _
    cases hr : (net.send request s).1 with
    | failed => simp [hr, Reply.value] at h
    | answer status body =>
      simp only [hr, Reply.value] at h
      repeat' split at h
      all_goals cases h

theorem serve_ne_noResult {page : PageState} {s s' : σ} {e : RestError}
    (h : q.serve net record page s = (.error e, s')) (address path : String) :
    e ≠ .noResult address path := by
  rw [serve] at h
  split at h
  · rename_i e' hu
    cases h
    rintro rfl
    rw [pageUrl] at hu
    repeat' split at hu
    all_goals cases hu
  · split at h
    · rename_i e' _ hr
      split at h
      · cases h
      · cases h
        obtain ⟨s₁, fetched⟩ := RetryConfig.operation_of_run hr
        exact fetch_ne_noResult fetched address path
    · cases h

theorem found_ne_noResult {at_ : String} {response : Json} {e : RestError}
    (h : q.found record at_ response = .error e) (address path : String) : e ≠ .noResult address path := by
  rintro rfl
  rw [found] at h
  split at h
  · cases h
  · rename_i hp
    rw [rowsOf] at h
    repeat' split at h
    all_goals simp_all [Except.map]

/-- What ends a record that is served is no record, and no page without a match. -/
theorem Served.closing_cases {page : PageState} {s : σ} {served : List ServedPage} {closing : Move}
    (h : q.Served net record page s served closing) :
    closing = .finished ∨ closing = .overflow ∨
      ∃ e, closing = .failed e ∧ ∀ address path, e ≠ .noResult address path := by
  induction h with
  | dropped | last => exact .inl rfl
  | overflow | bareOverflow => exact .inr (.inl rfl)
  | refused h => exact .inr (.inr ⟨_, rfl, serve_ne_noResult h⟩)
  | uneven _ hf => exact .inr (.inr ⟨_, rfl, found_ne_noResult hf⟩)
  | more _ _ _ _ ih => exact ih

end Pages

end QueryStep

/-! ## The calls of a chain for a record -/

namespace Chain

variable {σ : Type} {net : Network σ} {q : QueryStep} {record : Record}

/-- What is left of a step over a single record: the pages of that record. -/
theorem remaining_single (b : Nat) (s : σ) :
    ((seed [record]).addStep q).remaining net b emit s = pages net q record emit b {} s :=
  Trace.andThen_finished _

theorem ready_single (h : ∃ params, q.authenticate q.params = .ok params) :
    ((seed [record]).addStep q).Ready := by
  obtain ⟨params, h⟩ := h
  exact ⟨by simp [QueryStep.requestParams, h], rfl, trivial⟩

/-- Of two series of calls from the same chain and state one is a beginning of the other. -/
theorem Calls.prefix_or_prefix {c : Chain} (hc : c.Ready) {s : σ} {first second : List (Move × σ)}
    (h₁ : Calls net c s first) (h₂ : Calls net c s second) : first <+: second ∨ second <+: first := by
  rw [calls_iff_remaining hc] at h₁ h₂
  obtain ⟨b₁, h₁⟩ := h₁
  obtain ⟨b₂, h₂⟩ := h₂
  have grown {b b' : Nat} (h : b ≤ b') : (c.remaining net b emit s).answers <+:
      (c.remaining net b' emit s).answers :=
    Trace.answers_prefix (c.remaining_mono net (fun _ _ => Trace.le_refl _) h s)
  exact List.prefix_or_prefix_of_prefix (h₁.trans (grown (Nat.le_max_left b₁ b₂)))
    (h₂.trans (grown (Nat.le_max_right b₁ b₂)))

/-- Answers that end a run, after some records. -/
def IsWhole (answers : List Move) : Prop :=
  ∃ (records : List Record) (closing : Move), answers = records.map .record ++ [closing] ∧
    ∀ r, closing ≠ .record r

theorem IsWhole.eq_of_isPrefix {first second : List Move} (h₁ : IsWhole first) (h₂ : IsWhole second)
    (h : first <+: second) : first = second := by
  obtain ⟨records, closing, rfl, hc⟩ := h₁
  obtain ⟨records', closing', rfl, _⟩ := h₂
  induction records generalizing records' with
  | nil =>
    cases records' with
    | nil =>
      obtain ⟨rfl, _⟩ := List.cons_prefix_cons.1 h
      rfl
    | cons r rest => exact absurd (List.cons_prefix_cons.1 h).1 (hc r)
  | cons r rest ih =>
    cases records' with
    | nil => simpa using (List.cons_prefix_cons.1 h).2
    | cons r' rest' =>
      obtain ⟨he, h⟩ := List.cons_prefix_cons.1 h
      rw [List.map_cons, List.map_cons, List.cons_append, List.cons_append, he, ih rest' h]

end Chain

namespace QueryStep

theorem isWhole_closing {closing : Move} (hc : ∀ r, closing ≠ .record r) : Chain.IsWhole [closing] :=
  ⟨[], closing, rfl, hc⟩

theorem isWhole_records {answers : List Move} (records : List Record) (h : Chain.IsWhole answers) :
    Chain.IsWhole (records.map .record ++ answers) := by
  obtain ⟨more, closing, rfl, hc⟩ := h
  exact ⟨records ++ more, closing, by simp, hc⟩

variable {q : QueryStep} {record : Record} {closing : Move}

theorem isWhole_pageAnswers (page : ServedPage) {rest : List Move} (h : Chain.IsWhole rest) :
    Chain.IsWhole (q.pageAnswers record page rest) := by
  rw [pageAnswers]
  split
  · exact isWhole_records _ h
  · exact isWhole_records [record] h
  · exact h
  · exact isWhole_closing (by simp)

theorem isWhole_pagewise (hc : ∀ r, closing ≠ .record r) (pages : List ServedPage) :
    Chain.IsWhole (q.pagewise record closing pages) := by
  induction pages with
  | nil => exact isWhole_closing hc
  | cons page rest ih => exact isWhole_pageAnswers page ih

theorem isWhole_judged (hc : ∀ r, closing ≠ .record r) (pages : List ServedPage) :
    Chain.IsWhole (q.judged record pages closing) := by
  unfold judged
  split
  · have : joinedAnswers pages = (pages.flatMap fun page => page.joined.getD []).map .record := by
      rw [joinedAnswers, List.map_flatMap]
    exact this ▸ isWhole_records _ (isWhole_closing hc)
  · split
    · exact isWhole_closing hc
    · exact isWhole_records [record] (isWhole_closing hc)
    · exact isWhole_closing hc
    · exact isWhole_closing (by simp)

end QueryStep

/-- The calls of a step over a record whose pages are served: the policy has its say on each
page. -/
theorem QueryStep.Served.calls {σ : Type} {net : Network σ} {q : QueryStep} {record : Record} {s : σ}
    {served : List ServedPage} {closing : Move} (ha : ∃ params, q.authenticate q.params = .ok params)
    (h : q.Served net record {} s served closing) :
    ∃ answers, ((Chain.seed [record]).addStep q).Calls net s answers ∧
      answers.map Prod.fst = q.pagewise record closing served := by
  obtain ⟨b, hb⟩ := h.pages_answers
  refine ⟨_, (Chain.calls_iff_remaining (Chain.ready_single ha)).2 ⟨b, List.prefix_refl _⟩, ?_⟩
  rw [Chain.remaining_single, hb]

/-- **When a record is judged by all of its pages.** A step over a record answers its calls as
if the policy judged the record, whatever the server, exactly where the pages that are served
for the record make no difference: where a page without a match is skipped, or every page
matches, or, under `passThrough`, there is only one page, or, under `fail`, no page matches. -/
theorem calls_judged_iff {σ : Type} {net : Network σ} {q : QueryStep} {record : Record} {s : σ}
    {served : List ServedPage} {closing : Move} (ha : ∃ params, q.authenticate q.params = .ok params)
    (h : q.Served net record {} s served closing) :
    (∃ answers, ((Chain.seed [record]).addStep q).Calls net s answers ∧
        answers.map Prod.fst = q.judged record served closing) ↔
      (q.onEmpty = .passThrough → (∀ page ∈ served, page.joined.isSome) ∨ served.length ≤ 1) ∧
        (q.onEmpty = .fail →
          (∀ page ∈ served, page.joined.isSome) ∨ ∀ page ∈ served, page.joined.isNone) := by
  have hc : (∀ r, closing ≠ .record r) ∧ ∀ address path, closing ≠ .failed (.noResult address path) := by
    obtain rfl | rfl | ⟨e, rfl, he⟩ := h.closing_cases
    · simp
    · simp
    · simpa using he
  obtain ⟨made, hmade, hp⟩ := h.calls ha
  have agree : q.pagewise record closing served = q.judged record served closing ↔ q.Unaffected served :=
    QueryStep.pagewise_eq_judged_iff hc.2 served
  refine Iff.trans ?_ agree
  constructor
  · rintro ⟨answers, calls, hj⟩
    -- Both series of calls are whole, so neither can be a proper beginning of the other.
    have w : Chain.IsWhole (q.pagewise record closing served) := QueryStep.isWhole_pagewise hc.1 served
    have w' : Chain.IsWhole (q.judged record served closing) := QueryStep.isWhole_judged hc.1 served
    rw [← hp, ← hj] at *
    rcases hmade.prefix_or_prefix (Chain.ready_single ha) calls with h | h
    · exact w.eq_of_isPrefix w' (h.map Prod.fst)
    · exact (w'.eq_of_isPrefix w (h.map Prod.fst)).symm
  · exact fun he => ⟨made, hmade, hp.trans he⟩

/-! ## A full page before an empty one -/

namespace Join

/-- The items of a shop, one to a page. -/
def itemQuery (onEmpty : EmptyPolicy) : QueryConfig where
  url := "http://shop/{shop}"
  jsonPath := "$[*]"
  fieldNames := ["item"]
  paging := .full 1 "page"
  onEmpty

def itemStep (onEmpty : EmptyPolicy) : QueryStep where
  url := "http://shop/{shop}"
  path := ⟨"$[*]", [.of true [.of false [.wildcard]]]⟩
  fields := ["item"]
  paging := .full 1 "page"
  onEmpty

set_option maxRecDepth 20000 in
theorem parse_elements : JsonPath.parse "$[*]" = .ok ⟨"$[*]", [.of true [.of false [.wildcard]]]⟩ := by
  rfl

theorem build_itemQuery (onEmpty : EmptyPolicy) :
    (itemQuery onEmpty).build {} {} = .ok (itemStep onEmpty) := by
  simp only [itemQuery, QueryConfig.build, PagingConfig.build, parse_elements]
  rfl

/-- A server with a single item, on the first page; the state counts the requests. -/
def itemServer : Network Nat where
  send request s :=
    (.answer 200 (Utf8.encode (if request.url.text = "http://shop/1?page=1" then "[\"pen\"]" else "[]")),
      s + 1)
  wait _ s := s

def shop : Record := [("shop", .text "1")]

def shopItem : Record := [("item", .text "pen"), ("shop", .text "1")]

def itemPages : List ServedPage :=
  [⟨"http://shop/1?page=1", some [shopItem]⟩, ⟨"http://shop/1?page=2", none⟩]

theorem served_itemPages (onEmpty : EmptyPolicy) :
    (itemStep onEmpty).Served itemServer shop {} 0 itemPages .finished := by
  have first : (itemStep onEmpty).serve itemServer shop {} 0 =
      (.ok (some ("http://shop/1?page=1", .array [.text "pen"])), 1) := by
    cases onEmpty <;> exact Prod.ext (except_eq_ok_of_toOption (by decide +kernel)) (by decide +kernel)
  have second : (itemStep onEmpty).serve itemServer shop { page := 2 } 1 =
      (.ok (some ("http://shop/1?page=2", .array [])), 2) := by
    cases onEmpty <;> exact Prod.ext (except_eq_ok_of_toOption (by decide +kernel)) (by decide +kernel)
  have full : (itemStep onEmpty).found shop "http://shop/1?page=1" (.array [.text "pen"]) =
      .ok (some ([shopItem], 1)) := by
    cases onEmpty <;> exact except_eq_ok_of_toOption (by decide +kernel)
  have bare : (itemStep onEmpty).found shop "http://shop/1?page=2" (.array []) = .ok none := rfl
  exact .more first full (by rfl) (.last second bare (by rfl))

/-- Where pages without a match are skipped, the page after the last item does no harm. -/
theorem calls_skipped_page :
    (∃ params, (itemStep .skip).authenticate (itemStep .skip).params = .ok params) ∧
      (itemStep .skip).Served itemServer shop {} 0 itemPages .finished ∧
      ∃ answers, ((Chain.seed [shop]).addStep (itemStep .skip)).Calls itemServer 0 answers ∧
        answers.map Prod.fst = [.record shopItem, .finished] :=
  ⟨⟨_, rfl⟩, served_itemPages .skip,
    (calls_judged_iff ⟨_, rfl⟩ (served_itemPages .skip)).2 ⟨nofun, nofun⟩⟩

/-- The first page matches. Yet under `passThrough` a copy of the record without an item comes
out, and under `fail` the chain fails, on account of the empty page that only tells where the
items end. -/
theorem calls_bare_page :
    (itemQuery .passThrough).build {} {} = .ok (itemStep .passThrough) ∧
      (itemStep .passThrough).Served itemServer shop {} 0 itemPages .finished ∧
      (itemStep .passThrough).judged shop itemPages .finished = [.record shopItem, .finished] ∧
      (∃ answers, ((Chain.seed [shop]).addStep (itemStep .passThrough)).Calls itemServer 0 answers ∧
        answers.map Prod.fst = [.record shopItem, .record shop, .finished]) ∧
      ∃ answers, ((Chain.seed [shop]).addStep (itemStep .fail)).Calls itemServer 0 answers ∧
        answers.map Prod.fst =
          [.record shopItem, .failed (.noResult "http://shop/1?page=2" "$[*]")] :=
  ⟨build_itemQuery .passThrough, served_itemPages .passThrough, rfl,
    (served_itemPages .passThrough).calls ⟨_, rfl⟩, (served_itemPages .fail).calls ⟨_, rfl⟩⟩

end Join

end MetaGraph

/-
Lists that a server serves in pages. A step that takes a single value out of
each item joins a record with all items of the list, in order, and asks for
each page once: for numbered pages up to the last one with items, and
otherwise up to the first one that is not full.
-/
import MetaGraph.Proofs.Decimal.Integer
import MetaGraph.Proofs.Join.Configured
import MetaGraph.Proofs.Join.PageCount

namespace MetaGraph

/-! ## Pages of a list -/

/-- The items of a list on a page. -/
def pageItems (items : List Json) (size page : Nat) : List Json := (items.drop ((page - 1) * size)).take size

namespace Paging

/-- A value tells a number of items, as a number or in digits, which may have blanks around them. -/
inductive Tells (n : Nat) : Json → Prop
  | number : Tells n (.int n)
  | digits {t : String} {ds : List Char} : (Text.trim t).toList = ds → ds ≠ [] →
    (∀ c ∈ ds, c.isDigit = true) → Decimal.digitsValue ds = n → Tells n (.text t)

/-- How many pages of a list are asked for. -/
def pageCount (length : Nat) : Paging → Nat
  | single => 1
  | numbered size _ _ => pagesOf length size
  | full size _ => length / size + 1

/-- Where a query stands at a page of a list: a first page has told how many items there are. -/
def listState (length page : Nat) : Paging → PageState
  | numbered .. => ⟨page, if page = 1 then none else some length⟩
  | single | full .. => ⟨page, none⟩

theorem count?_of_tells {n : Nat} {v : Json} (h : Tells n v) (small : n < 2 ^ 64) : count? v = some n := by
  cases h with
  | number => simp [count?]
  | @digits t ds trimmed given digits value =>
    have read : Decimal.uint64 (Text.trim t) = .ok (n : Int) := by
      rw [Decimal.uint64, trimmed, Decimal.integer_digits given digits] <;> rw [value]
      · omega
      · rw [Decimal.u64Max]
        omega
    rw [count?, read]
    rfl

end Paging

namespace Rows

variable {α : Type}

/-- Single values are rows by themselves, whichever way they come. -/
theorem divide_one (values : List α) (byColumn : Bool) :
    divide values 1 byColumn = .ok (values.map fun v => [v]) := by
  have byRow (values : List α) : runs 1 values.length values = values.map fun v => [v] := by
    induction values with
    | nil => rfl
    | cons v rest ih => rw [List.length_cons, runs, List.drop_one, List.tail_cons, ih]; rfl
  have columns : (List.range values.length).map (fun i => strided values values.length 1 i) =
      values.map fun v => [v] := by
    refine List.ext_getElem (by simp) fun i hi _ => ?_
    have inside : i < values.length := by simpa using hi
    simp [strided, List.getElem?_eq_getElem inside]
  rw [divide, if_neg Nat.one_ne_zero, if_neg (by omega), Nat.div_one]
  cases byColumn
  · exact congrArg _ (byRow values)
  · exact congrArg _ columns

end Rows

namespace QueryStep

variable {σ : Type} {net : Network σ} {q : QueryStep} {name : String} {record : Record} {items : List Json}
  {size page : Nat} {response : Json}

/-- The request for a page of a record, if one can be put together. -/
def request? (q : QueryStep) (record : Record) (page : Nat) : Option Request :=
  (q.pageUrl record { page }).toOption.bind fun url => (Request.build url q.requestParams).toOption

/-- An answer holds a page of a list: the step finds the items there. If pages are numbered, the
first one tells how many items there are, and a path of its own finds something where there are
items. -/
structure HoldsPage (q : QueryStep) (items : List Json) (size page : Nat) (response : Json) : Prop where
  found : q.path.find response = pageItems items size page
  total : ∀ path counted, q.paging = .numbered size path counted → page = 1 →
    ∃ v, (path.find response).head? = some v ∧ Paging.Tells items.length v
  counted : ∀ path counted, q.paging = .numbered size path (some counted) → pageItems items size page ≠ [] →
    counted.find response ≠ []

/-- A server answers the request for each page of a record with a page of a list. -/
def ServesList (q : QueryStep) (net : Network σ) (record : Record) (items : List Json) (size : Nat) : Prop :=
  ∀ page, 1 ≤ page → page ≤ q.paging.pageCount items.length →
    ∃ request, q.request? record page = some request ∧
      ∀ s, ∃ response, q.HoldsPage items size page response ∧
        ∀ address, (net.send request s).1.value address = .ok response

theorem rowsOf_one (one : q.fields = [name]) (plain : q.coalesce = false) (skips : q.onEmpty = .skip)
    (address : String) : q.rowsOf record address response =
      .ok ((q.path.find response).map fun v => q.join record [v], (q.path.find response).length) := by
  unfold rowsOf
  cases hf : q.path.find response with
  | nil => simp only [skips, List.map_nil, List.length_nil]
  | cons v rest =>
    simp only [plain, one, List.length_singleton, Rows.divide_one, List.length_map, List.map_map,
      Bool.false_eq_true, if_false]
    rfl

theorem length_pageItems (items : List Json) (size page : Nat) :
    (pageItems items size page).length = min size (items.length - (page - 1) * size) := by
  rw [pageItems, List.length_take, List.length_drop]

/-- The end of a page. -/
theorem page_mul (hp : 1 ≤ page) (size : Nat) : page * size = (page - 1) * size + size := by
  rw [← Nat.succ_mul, Nat.succ_eq_add_one, Nat.sub_add_cancel hp]

/-- After the items of a page come those of the next one. -/
theorem pageItems_append_drop (items : List Json) (size : Nat) (hp : 1 ≤ page) :
    pageItems items size page ++ items.drop (page * size) = items.drop ((page - 1) * size) := by
  rw [page_mul hp, ← List.drop_drop, pageItems, List.take_append_drop]

/-- What follows a numbered page of a list. -/
theorem advance_numbered_list {path : JsonPath} {counted : Option JsonPath}
    (numbered : q.paging = .numbered size path counted) (hs : 1 ≤ size) (small : items.length + size < 2 ^ 64)
    (holds : q.HoldsPage items size page response) (hp : 1 ≤ page)
    (hk : page ≤ Paging.pagesOf items.length size) :
    (Paging.numbered size path counted).advance ⟨page, if page = 1 then none else some items.length⟩ response
        (pageItems items size page).length =
      some (if page < Paging.pagesOf items.length size then (true, ⟨page + 1, some items.length⟩)
        else (false, {})) := by
  have known : ((if page = 1 then none else some items.length) <|> Paging.reportedTotal? path response) =
      some items.length := by
    by_cases first : page = 1
    · obtain ⟨v, hv, tells⟩ := holds.total path counted numbered first
      rw [if_pos first, Paging.reportedTotal?, hv]
      exact Paging.count?_of_tells tells (by omega)
    · rw [if_neg first]
      rfl
  have before := page_mul hp size
  -- All pages but the first one start before the end of the list.
  have starts : page = 1 ∨ (page - 1) * size < items.length := by
    by_cases first : page = 1
    · exact .inl first
    · exact .inr ((Paging.lt_pagesOf_iff (by omega) hs).1 (by omega))
  have fits : page * size < 2 ^ 64 := by
    rcases starts with rfl | inside <;> omega
  have given (inside : page * size < items.length) :
      0 < Paging.countedRows counted response (pageItems items size page).length := by
    have nonempty : 0 < (pageItems items size page).length := by
      rw [length_pageItems]
      omega
    cases counted with
    | none => exact nonempty
    | some counted =>
      exact List.length_pos_iff.2 (holds.counted path counted numbered (List.length_pos_iff.1 nonempty))
  have follows : page < Paging.pagesOf items.length size ↔ page * size < items.length :=
    Paging.lt_pagesOf_iff hp hs
  by_cases bare : Paging.countedRows counted response (pageItems items size page).length = 0
  · have last : ¬ page < Paging.pagesOf items.length size := fun more => by
      have := given (follows.1 more)
      omega
    rw [Paging.advance_bare bare, if_neg last]
  · rw [Paging.advance_counted bare fits, known, Option.getD_some]
    simp only [follows]

/-- What follows a page of a list that has to be full if it is not the last. -/
theorem advance_full_list {param : String} (hs : 1 ≤ size) (hp : 1 ≤ page) :
    (Paging.full size param).advance ⟨page, none⟩ response (pageItems items size page).length =
      some (if page < items.length / size + 1 then (true, ⟨page + 1, none⟩) else (false, {})) := by
  have before := page_mul hp size
  have whole : page ≤ items.length / size ↔ page * size ≤ items.length := Nat.le_div_iff_mul_le hs
  have full : size ≤ (pageItems items size page).length ↔ page < items.length / size + 1 := by
    rw [length_pageItems]
    omega
  rw [Paging.advance]
  by_cases more : page < items.length / size + 1
  · rw [if_pos (full.2 more), if_pos more]
  · rw [if_neg fun h => more (full.1 h), if_neg more]

/-- The pages of a step are numbered, or all but the last one are full. -/
def InPages (q : QueryStep) (size : Nat) : Prop :=
  (∃ path counted, q.paging = .numbered size path counted) ∨ ∃ param, q.paging = .full size param

theorem advance_list (paged : q.InPages size) (hs : 1 ≤ size) (small : items.length + size < 2 ^ 64)
    (holds : q.HoldsPage items size page response) (hp : 1 ≤ page)
    (hk : page ≤ q.paging.pageCount items.length) :
    q.paging.advance (q.paging.listState items.length page) response (pageItems items size page).length =
      some (decide (page < q.paging.pageCount items.length),
        if page < q.paging.pageCount items.length then q.paging.listState items.length (page + 1)
        else {}) := by
  have pair {c : Prop} [Decidable c] (a b : PageState) :
      (if c then (true, a) else (false, b)) = (decide c, if c then a else b) := by
    split <;> simp_all
  rw [← pair]
  obtain ⟨path, counted, numbered⟩ | ⟨param, full⟩ := paged
  · rw [numbered] at hk ⊢
    have next : (Paging.numbered size path counted).listState items.length (page + 1) =
        ⟨page + 1, some items.length⟩ := by
      rw [Paging.listState, if_neg (by omega)]
    rw [next]
    exact advance_numbered_list numbered hs small holds hp hk
  · rw [full]
    exact advance_full_list hs hp

theorem one_le_pageCount (paged : q.InPages size) (length : Nat) : 1 ≤ q.paging.pageCount length := by
  obtain ⟨path, counted, numbered⟩ | ⟨param, full⟩ := paged
  · rw [numbered]
    exact Nat.le_max_left ..
  · rw [full]
    exact Nat.le_add_left ..

/-- The last page of a list is not left before its end. -/
theorem length_le_pageCount (paged : q.InPages size) (hs : 1 ≤ size) (length : Nat) :
    length ≤ q.paging.pageCount length * size := by
  obtain ⟨path, counted, numbered⟩ | ⟨param, full⟩ := paged
  · rw [numbered, Paging.pageCount]
    refine Nat.le_of_not_lt fun short => ?_
    exact Nat.lt_irrefl _ ((Paging.lt_pagesOf_iff (Nat.le_max_left ..) hs).2 short)
  · rw [full, Paging.pageCount]
    exact Nat.le_of_lt (Nat.lt_mul_of_div_lt (Nat.lt_succ_self _) hs)

/-! ## The requests for a list -/

theorem page_listState (p : Paging) (length page : Nat) : (p.listState length page).page = page := by
  cases p <;> rfl

theorem listState_one (p : Paging) (length : Nat) : p.listState length 1 = {} := by
  cases p <;> rfl

/-- The address of a page tells its number only. -/
theorem pageUrl_eq (record : Record) (s : PageState) :
    q.pageUrl record s = q.pageUrl record { page := s.page } := by
  unfold pageUrl
  cases q.paging <;> rfl

/-- A request that is answered at once is sent once. -/
theorem serve_recorded {s : σ} (sent : List Request) {request : Request} {state : PageState}
    (asks : q.request? record state.page = some request)
    (answers : ∀ address, (net.send request s).1.value address = .ok response) :
    ∃ address, q.serve net.recorded record state (s, sent) =
      (.ok (some (address, response)), (net.send request s).2, sent ++ [request]) := by
  obtain ⟨url, hu, hr⟩ := Option.bind_eq_some_iff.1 asks
  have addressed := except_eq_ok_of_toOption hu
  rw [← pageUrl_eq] at addressed
  have fetched : q.requestParams.fetch net.recorded url (s, sent) =
      (.ok response, (net.send request s).2, sent ++ [request]) := by
    simp only [RequestParams.fetch, except_eq_ok_of_toOption hr, Network.recorded, answers]
  have run : q.retry.run net.recorded.wait (q.requestParams.fetch net.recorded url) (s, sent) =
      (.ok response, (net.send request s).2, sent ++ [request]) := by
    rw [RetryConfig.run]
    cases q.retry.budget - 1 with
    | zero => exact fetched
    | succ left => simp only [RetryConfig.attempts, fetched]
  exact ⟨url.text, by simp only [serve, addressed, run]⟩

/-- A page of a list is asked for once; it brings the records of its items, and stands before the
next page unless it is the last one. -/
theorem fetchPage_list (one : q.fields = [name]) (plain : q.coalesce = false) (skips : q.onEmpty = .skip)
    (paged : q.InPages size) (hs : 1 ≤ size) (small : items.length + size < 2 ^ 64)
    (serves : q.ServesList net record items size) (hp : 1 ≤ page)
    (hk : page ≤ q.paging.pageCount items.length) (s : σ) (sent : List Request) :
    ∃ request s', q.request? record page = some request ∧
      q.fetchPage q.requestParams net.recorded record (q.paging.listState items.length page) (s, sent) =
        (some (.ok ⟨(pageItems items size page).map fun item => q.join record [item],
          decide (page < q.paging.pageCount items.length),
          if page < q.paging.pageCount items.length then q.paging.listState items.length (page + 1) else {}⟩),
          s', sent ++ [request]) := by
  obtain ⟨request, asks, answers⟩ := serves page hp hk
  obtain ⟨response, holds, answers⟩ := answers s
  have asks' : q.request? record (q.paging.listState items.length page).page = some request := by
    rw [page_listState]
    exact asks
  obtain ⟨address, served⟩ := serve_recorded sent asks' answers
  refine ⟨request, (net.send request s).2, asks, ?_⟩
  rw [fetchPage_eq, served]
  simp only [readPage, rowsOf_one one plain skips, holds.found, advance_list paged hs small holds hp hk,
    Option.map_some]

/-- From a page of a list on, the step goes through all pages that are left. -/
theorem run_list (one : q.fields = [name]) (plain : q.coalesce = false) (skips : q.onEmpty = .skip)
    (paged : q.InPages size) (hs : 1 ≤ size) (small : items.length + size < 2 ^ 64)
    (serves : q.ServesList net record items size) {left : Nat} (hp : 1 ≤ page)
    (hl : page + left = q.paging.pageCount items.length) (inner : Chain) (s : σ) (sent : List Request) :
    ∃ requests s', requests.map some = (List.range' page (left + 1)).map (q.request? record) ∧
      Chain.Run net.recorded (q.standing record (q.paging.listState items.length page) inner) (s, sent)
        (left + 1) ((items.drop ((page - 1) * size)).map fun item => q.join record [item]) (q.done {} inner)
        (s', sent ++ requests) := by
  have all := length_le_pageCount paged hs items.length
  induction left generalizing page s sent with
  | zero =>
    obtain ⟨request, s', asks, fetched⟩ :=
      fetchPage_list one plain skips paged hs small serves hp (by omega) s sent
    have last : pageItems items size page = items.drop ((page - 1) * size) := by
      refine List.take_of_length_le ?_
      rw [List.length_drop, Nat.sub_mul]
      rw [← hl, Nat.add_zero] at all
      omega
    rw [last, if_neg (by omega), decide_eq_false (by omega)] at fetched
    exact ⟨[request], s', by simp [asks], run_page fetched⟩
  | succ left ih =>
    obtain ⟨request, s', asks, fetched⟩ :=
      fetchPage_list one plain skips paged hs small serves hp (by omega) s sent
    rw [if_pos (by omega), decide_eq_true (by omega)] at fetched
    obtain ⟨requests, s₂, asked, rest⟩ :=
      @ih (page + 1) (Nat.le_add_left 1 page) (by omega) s' (sent ++ [request])
    have whole := (run_page fetched).append rest
    rw [List.append_assoc, List.singleton_append, ← List.map_append, Nat.add_sub_cancel,
      pageItems_append_drop items size hp, Nat.add_comm 1] at whole
    refine ⟨request :: requests, s₂, ?_, whole⟩
    rw [List.map_cons, asked, ← asks]
    rfl

end QueryStep

/-- **A list in pages.** A step is fed a record by the chain below it, whatever page it stood at
before. If a server serves a list for the record, the step hands out the record with each item of
the list in order, and asks for all pages of the list, each once and the first one first; it is then
done with the record. With numbered pages, whatever the server answers, the first page's total
bounds how many pages are asked for. -/
theorem list_in_pages {q : QueryStep} {name : String} {size : Nat} (one : q.fields = [name])
    (plain : q.coalesce = false) (skips : q.onEmpty = .skip) (paged : q.InPages size) (hs : 1 ≤ size)
    {state : StepState} (idle : state.Idle q) {σ : Type} {net : Network σ} {record : Record}
    {inner inner' : Chain} {s s₁ : σ} {sent sent₁ : List Request}
    (feeds : inner.move net.recorded (s, sent) = (.record record, inner', s₁, sent₁)) :
    (∀ items : List Json, items.length + size < 2 ^ 64 → q.ServesList net record items size →
      ∃ requests s₂,
        requests.map some = (List.range' 1 (q.paging.pageCount items.length)).map (q.request? record) ∧
        Chain.Run net.recorded (.step q state inner) (s, sent) (q.paging.pageCount items.length)
          (items.map fun item => q.join record [item]) (q.done {} inner') (s₂, sent₁ ++ requests)) ∧
      ∀ path counted total, q.paging = .numbered size path counted → total + size < 2 ^ 64 →
        (∀ address response s₂,
          q.serve net.recorded record {} (s₁, sent₁) = (.ok (some (address, response)), s₂) →
            (Paging.reportedTotal? path response).getD 0 = total) →
        Chain.OverWithin net.recorded q inner' (.step q state inner) (s, sent)
          (Paging.pagesOf total size) := by
  have begins := QueryStep.move_idle idle feeds
  refine ⟨fun items small serves => ?_, fun path counted total numbered small first => ?_⟩
  · obtain ⟨left, hl⟩ : ∃ left, 1 + left = q.paging.pageCount items.length :=
      ⟨_, Nat.add_sub_cancel' (QueryStep.one_le_pageCount paged items.length)⟩
    obtain ⟨requests, s₂, asked, run⟩ :=
      QueryStep.run_list one plain skips paged hs small serves (Nat.le_refl 1) hl inner' s₁ sent₁
    rw [QueryStep.listState_one, Nat.sub_self, Nat.zero_mul, List.drop_zero] at run
    rw [Nat.add_comm left, hl] at asked run
    exact ⟨requests, s₂, asked, run.of_move_eq begins (QueryStep.done_ne_standing _)⟩
  · exact (QueryStep.over_of_first_total numbered hs small first).of_move_eq begins

/-! ## The stock of a shop -/

/-- The items of a shop, two to a page. -/
def stockStep : QueryStep where
  url := "http://shop/{shop}"
  path := ⟨"items[*]", [.of true [.of false [.name "items"], .of false [.wildcard]]]⟩
  fields := ["item"]
  onEmpty := .skip
  paging := .numbered 2 ⟨"total", [.of true [.of false [.name "total"]]]⟩ none

/-- The first shop has three items, as its first page tells; its second page tells something else.
All other shops have none. -/
def stockText (address : String) : String :=
  if address = "http://shop/1?pageSize=2&pageNumber=1" then
    "\x7b\"items\":[\"pen\",\"ink\"],\"total\":\" 3 \"\x7d"
  else if address = "http://shop/1?pageSize=2&pageNumber=2" then "\x7b\"items\":[\"nib\"],\"total\":99\x7d"
  else "\x7b\"items\":[],\"total\":0\x7d"

/-- A server whose state counts the requests. -/
def stockServer : Network Nat where
  send request s := (.answer 200 (Utf8.encode (stockText request.url.text)), s + 1)
  wait _ s := s

def shopRecord (shop : String) : Record := [("shop", .text shop)]

/-- An answer of the server is the same whenever it is given. -/
theorem stock_answers {shop : String} {page : Nat} {response : Json}
    (h : ((stockStep.request? (shopRecord shop) page).map fun request =>
      ((stockServer.send request 0).1.value "").toOption) = some (some response)) :
    ∃ request, stockStep.request? (shopRecord shop) page = some request ∧
      ∀ s address, (stockServer.send request s).1.value address = .ok response := by
  obtain ⟨request, asks, answered⟩ := Option.map_eq_some_iff.1 h
  exact ⟨request, asks, fun s => Reply.value_of_toOption answered⟩

theorem holdsPage_stock {items : List Json} {page : Nat} {response : Json}
    (found : stockStep.path.find response = pageItems items 2 page)
    (total : page = 1 →
      ∃ v, (JsonPath.find ⟨"total", [.of true [.of false [.name "total"]]]⟩ response).head? = some v ∧
        Paging.Tells items.length v) : stockStep.HoldsPage items 2 page response where
  found := found
  total := by
    rintro _ _ ⟨⟩ first
    exact total first
  counted := by
    rintro _ _ ⟨⟩

def stockItems : List Json := [.text "pen", .text "ink", .text "nib"]

theorem servesList_stock : stockStep.ServesList stockServer (shopRecord "1") stockItems 2 := by
  intro page hp hk
  have pages : stockStep.paging.pageCount stockItems.length = 2 := by decide
  obtain rfl | rfl : page = 1 ∨ page = 2 := by omega
  · have answered : (stockStep.request? (shopRecord "1") 1).map (fun request =>
        ((stockServer.send request 0).1.value "").toOption) =
        some (some (.object [("items", .array [.text "pen", .text "ink"]), ("total", .text " 3 ")])) := by
      decide +kernel
    obtain ⟨request, asks, answers⟩ := stock_answers answered
    refine ⟨request, asks, fun s => ⟨_, holdsPage_stock (by decide +kernel) fun _ => ?_, answers s⟩⟩
    have trimmed : (Text.trim " 3 ").toList = ['3'] := by decide +kernel
    exact ⟨.text " 3 ", by decide +kernel, .digits trimmed (by decide) (List.forall_mem_singleton.2 rfl) rfl⟩
  · have answered : (stockStep.request? (shopRecord "1") 2).map (fun request =>
        ((stockServer.send request 0).1.value "").toOption) =
        some (some (.object [("items", .array [.text "nib"]), ("total", .int 99)])) := by
      decide +kernel
    obtain ⟨request, asks, answers⟩ := stock_answers answered
    exact ⟨request, asks, fun s => ⟨_, holdsPage_stock (by decide +kernel) nofun, answers s⟩⟩

theorem servesList_noStock : stockStep.ServesList stockServer (shopRecord "2") [] 2 := by
  intro page hp hk
  have pages : stockStep.paging.pageCount ([] : List Json).length = 1 := by decide
  obtain rfl : page = 1 := by omega
  have answered : (stockStep.request? (shopRecord "2") 1).map (fun request =>
      ((stockServer.send request 0).1.value "").toOption) =
      some (some (.object [("items", .array []), ("total", .int 0)])) := by
    decide +kernel
  obtain ⟨request, asks, answers⟩ := stock_answers answered
  exact ⟨request, asks, fun s => ⟨_, holdsPage_stock (by decide +kernel) fun _ =>
    ⟨.int 0, by decide +kernel, .number⟩, answers s⟩⟩

/-- Two shops, one after the other: the second starts at its first page again. And the first one
is over within two pages, whatever its second page tells. -/
theorem list_in_pages_stock :
    (∃ requests s, requests.map (·.url.text) = ["http://shop/1?pageSize=2&pageNumber=1",
        "http://shop/1?pageSize=2&pageNumber=2", "http://shop/2?pageSize=2&pageNumber=1"] ∧
      Chain.Run stockServer.recorded ((Chain.seed [shopRecord "1", shopRecord "2"]).addStep stockStep)
        (0, []) 3
        [[("item", .text "pen"), ("shop", .text "1")], [("item", .text "ink"), ("shop", .text "1")],
          [("item", .text "nib"), ("shop", .text "1")]]
        (stockStep.done {} (.seed [])) (s, requests)) ∧
      Chain.OverWithin stockServer.recorded stockStep (.seed [shopRecord "2"])
        ((Chain.seed [shopRecord "1", shopRecord "2"]).addStep stockStep) (0, []) 2 := by
  have idle (authenticated : Bool) (page : PageState) :
      StepState.Idle stockStep ⟨{}, authenticated, none, [], page⟩ :=
    ⟨rfl, by cases authenticated <;> rfl, rfl, rfl⟩
  have paged : stockStep.InPages 2 := .inl ⟨_, _, rfl⟩
  have texts {requests : List Request} {asked : List (Option Request)} (h : requests.map some = asked) :
      requests.map (·.url.text) = asked.filterMap (Option.map (·.url.text)) := by
    subst h
    rw [List.filterMap_map]
    exact List.filterMap_eq_map.symm ▸ rfl
  have feeds : (Chain.seed [shopRecord "1", shopRecord "2"]).move stockServer.recorded (0, []) =
      (.record (shopRecord "1"), .seed [shopRecord "2"], 0, []) := rfl
  obtain ⟨serves, bounded⟩ := list_in_pages rfl rfl rfl paged (by decide) (idle false {}) feeds
  obtain ⟨requests, s, asked, run⟩ := serves stockItems (by decide) servesList_stock
  have feeds' : (Chain.seed [shopRecord "2"]).move stockServer.recorded (s, [] ++ requests) =
      (.record (shopRecord "2"), .seed [], s, [] ++ requests) := rfl
  obtain ⟨requests', s', asked', run'⟩ :=
    (list_in_pages rfl rfl rfl paged (by decide) (idle true {}) feeds').1 [] (by decide) servesList_noStock
  refine ⟨⟨[] ++ requests ++ requests', s', ?_, run.append run'⟩, ?_⟩
  · rw [List.nil_append, List.map_append, texts asked, texts asked']
    decide +kernel
  · refine bounded _ _ 3 rfl (by decide) fun address response s₂ h => ?_
    have served : (stockStep.serve stockServer.recorded (shopRecord "1") {} (0, [])).1.toOption =
        some (some ("http://shop/1?pageSize=2&pageNumber=1",
          .object [("items", .array [.text "pen", .text "ink"]), ("total", .text " 3 ")])) := by
      decide +kernel
    rw [h] at served
    cases served
    decide +kernel

end MetaGraph

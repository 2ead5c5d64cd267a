/-
Lists in pages for a step that gathers what a page holds in one array. Paging
goes on while pages are full, but a gathered page counts as a single row
however many items it holds. So the list comes out whole only if a page holds
one item or if one page holds all items.
-/
import Mathlib.Data.List.Basic
import Mathlib.Data.List.TakeDrop
import MetaGraph.Proofs.Join.PagedList

namespace MetaGraph

/-- The items of all arrays that stand in a field of some records, in order. -/
def arrayItems (name : String) (records : List Record) : List Json :=
  records.flatMap fun r =>
    match r.get? name with
    | some (.array items) => items
    | _ => []

namespace QueryStep

variable {σ : Type} {net : Network σ} {q : QueryStep} {name param : String} {record : Record}
  {items : List Json} {size page : Nat} {response : Json}

/-- The records of a page with the given items: one with all of them, or none if there are none. -/
def gathered (q : QueryStep) (record : Record) (items : List Json) : List Record :=
  if items = [] then [] else [q.join record [.array items]]

@[simp] theorem gathered_nil (q : QueryStep) (record : Record) : q.gathered record [] = [] := rfl

theorem gathered_of_ne {items : List Json} (h : items ≠ []) :
    q.gathered record items = [q.join record [.array items]] := if_neg h

theorem length_gathered_le (q : QueryStep) (record : Record) (items : List Json) :
    (q.gathered record items).length ≤ 1 := by
  unfold gathered
  split
  · exact Nat.zero_le 1
  · exact Nat.le_refl 1

/-- Each record of a page binds an array. -/
theorem exists_array_of_mem_gathered {r : Record} (h : r ∈ q.gathered record items) :
    ∃ array, r = q.join record [.array array] := by
  unfold gathered at h
  split at h
  · cases h
  · exact ⟨items, List.mem_singleton.1 h⟩

theorem arrayItems_gathered (one : q.fields = [name]) (items : List Json) :
    arrayItems name (q.gathered record items) = items := by
  unfold gathered
  split
  · rename_i none
    rw [none]
    rfl
  · have bound : (q.join record [.array items]).get? name = some (.array items) := by
      rw [join, one, KeyMap.get?_extend]
      simp
    simp [arrayItems, bound]

/-- A step that gathers the items of full pages in its only field. -/
structure Gathers (q : QueryStep) (name : String) (size : Nat) (param : String) : Prop where
  one : q.fields = [name]
  coalesces : q.coalesce = true
  skips : q.onEmpty = .skip
  full : q.paging = .full size param

section Gathers

variable (h : q.Gathers name size param)

include h

theorem Gathers.rowsOf (address : String) : q.rowsOf record address response =
    .ok (q.gathered record (q.path.find response), (q.gathered record (q.path.find response)).length) := by
  unfold QueryStep.rowsOf
  cases q.path.find response with
  | nil => simp only [h.skips, gathered_nil, List.length_nil]
  | cons v rest =>
    rw [gathered_of_ne (List.cons_ne_nil v rest)]
    simp only [h.coalesces, if_true, List.length_singleton]

/-- A page is asked for once. Another one follows if a single row makes a page full. -/
theorem Gathers.fetchPage (serves : q.ServesList net record items size) (hp : 1 ≤ page)
    (hk : page ≤ items.length / size + 1) (s : σ) (sent : List Request) :
    ∃ request s', q.request? record page = some request ∧
      q.fetchPage q.requestParams net.recorded record ⟨page, none⟩ (s, sent) =
        (some (.ok (if size ≤ (q.gathered record (pageItems items size page)).length then
            ⟨q.gathered record (pageItems items size page), true, ⟨page + 1, none⟩⟩
          else ⟨q.gathered record (pageItems items size page), false, {}⟩)), s', sent ++ [request]) := by
  obtain ⟨request, asks, answers⟩ := serves page hp (by rw [h.full]; exact hk)
  obtain ⟨response, holds, answers⟩ := answers s
  have asks' : q.request? record (PageState.page ⟨page, none⟩) = some request := asks
  obtain ⟨address, served⟩ := serve_recorded sent asks' answers
  refine ⟨request, (net.send request s).2, asks, ?_⟩
  rw [fetchPage_eq, served]
  simp only [readPage, h.rowsOf, holds.found, h.full, Paging.advance, Option.map_some]
  split <;> rfl

/-- Pages of several items: the first one counts a single row at most, and is the last. -/
theorem Gathers.run_first (several : 1 < size) (serves : q.ServesList net record items size) (inner : Chain)
    (s : σ) (sent : List Request) :
    ∃ request s', q.request? record 1 = some request ∧
      Chain.Run net.recorded (q.standing record {} inner) (s, sent) 1 (q.gathered record (items.take size))
        (q.done {} inner) (s', sent ++ [request]) := by
  obtain ⟨request, s', asks, fetched⟩ := h.fetchPage serves (Nat.le_refl 1) (Nat.le_add_left 1 _) s sent
  have first : pageItems items size 1 = items.take size := by
    rw [pageItems, Nat.sub_self, Nat.zero_mul, List.drop_zero]
  have short := q.length_gathered_le record (items.take size)
  rw [first, if_neg (by omega)] at fetched
  exact ⟨request, s', asks, run_page fetched⟩

/-- Pages of one item: from a page on all pages up to the first empty one are asked for. -/
theorem Gathers.run_singles (single : size = 1) (serves : q.ServesList net record items size) {left : Nat}
    (hp : 1 ≤ page) (hl : page + left = items.length + 1) (inner : Chain) (s : σ) (sent : List Request) :
    ∃ requests s', requests.map some = (List.range' page (left + 1)).map (q.request? record) ∧
      Chain.Run net.recorded (q.standing record ⟨page, none⟩ inner) (s, sent) (left + 1)
        ((items.drop (page - 1)).flatMap fun item => q.gathered record [item]) (q.done {} inner)
        (s', sent ++ requests) := by
  subst single
  induction left generalizing page s sent with
  | zero =>
    obtain ⟨request, s', asks, fetched⟩ := h.fetchPage serves hp (by rw [Nat.div_one]; omega) s sent
    have past : items.drop (page - 1) = [] := List.drop_eq_nil_of_le (by omega)
    have empty : pageItems items 1 page = [] := by rw [pageItems, Nat.mul_one, past, List.take_nil]
    rw [empty, gathered_nil, if_neg (by decide)] at fetched
    rw [past]
    exact ⟨[request], s', by simp [asks], run_page fetched⟩
  | succ left ih =>
    obtain ⟨request, s', asks, fetched⟩ := h.fetchPage serves hp (by rw [Nat.div_one]; omega) s sent
    obtain ⟨item, rest, here⟩ : ∃ item rest, items.drop (page - 1) = item :: rest :=
      List.exists_cons_of_ne_nil fun none => by
        have := List.drop_eq_nil_iff.1 none
        omega
    have on : pageItems items 1 page = [item] := by rw [pageItems, Nat.mul_one, here]; rfl
    have later : items.drop page = rest := by
      have := congrArg List.tail here
      rwa [List.tail_drop, Nat.sub_add_cancel hp] at this
    rw [on, if_pos (by rw [gathered_of_ne (List.cons_ne_nil _ _)]; exact Nat.le_refl 1)] at fetched
    obtain ⟨requests, s₂, asked, run⟩ :=
      @ih (page + 1) (Nat.le_add_left 1 page) (by omega) s' (sent ++ [request])
    have whole := (run_page fetched).append run
    rw [List.append_assoc, List.singleton_append, Nat.add_sub_cancel, later, Nat.add_comm 1] at whole
    refine ⟨request :: requests, s₂, ?_, ?_⟩
    · rw [List.map_cons, asked, ← asks]
      rfl
    · rw [here, List.flatMap_cons]
      exact whole

end Gathers

end QueryStep

/-- **A list gathered in pages.** A step is fed a record by the chain below it, and a server serves a
list for it in pages of the step's size. Pages of one item are asked for up to the first empty one,
and all items come out; of larger pages only the first is asked for, and its items come out. So the
arrays hold the whole list if it is on one page or its pages hold one item each, and otherwise a
page behind a full one is left out. -/
theorem arrays_in_pages {q : QueryStep} {name param : String} {size : Nat} (gathers : q.Gathers name size param)
    (hs : 1 ≤ size) {state : StepState} (idle : state.Idle q) {σ : Type} {net : Network σ} {record : Record}
    {inner inner' : Chain} {s s₁ : σ} {sent sent₁ : List Request}
    (feeds : inner.move net.recorded (s, sent) = (.record record, inner', s₁, sent₁)) {items : List Json}
    (serves : q.ServesList net record items size) :
    ∃ asked requests out s₂, asked = (if size = 1 then items.length + 1 else 1) ∧
      requests.map some = (List.range' 1 asked).map (q.request? record) ∧
      Chain.Run net.recorded (.step q state inner) (s, sent) asked out (q.done {} inner') (s₂, sent₁ ++ requests) ∧
      (∀ r ∈ out, ∃ array, r = q.join record [.array array]) ∧
      arrayItems name out = (if size = 1 then items else items.take size) ∧
      (arrayItems name out = items ↔ size = 1 ∨ items.length ≤ size) ∧
      ((∀ page, 1 ≤ page → (pageItems items size page).length = size → page < asked) ↔
        size = 1 ∨ items.length < size) := by
  have begins := QueryStep.move_idle idle feeds
  rcases Nat.lt_or_ge 1 size with several | single
  · obtain ⟨request, s₂, asks, run⟩ := gathers.run_first several serves inner' s₁ sent₁
    have held := @QueryStep.arrayItems_gathered q name record gathers.one (items.take size)
    have other : size ≠ 1 := by omega
    refine ⟨1, [request], _, s₂, (if_neg other).symm, by simp [asks],
      run.of_move_eq begins (QueryStep.done_ne_standing _), fun _ => QueryStep.exists_array_of_mem_gathered, ?_, ?_, ?_⟩
    · rw [held, if_neg other]
    · rw [held, or_iff_right other, List.take_eq_self_iff]
    · rw [or_iff_right other]
      constructor
      · intro followed
        refine Nat.lt_of_not_le fun enough => Nat.lt_irrefl 1 (followed 1 (Nat.le_refl 1) ?_)
        rw [QueryStep.length_pageItems]
        omega
      · intro short page hp full
        rw [QueryStep.length_pageItems] at full
        omega
  · obtain rfl : size = 1 := Nat.le_antisymm single hs
    obtain ⟨requests, s₂, asked, run⟩ :=
      gathers.run_singles rfl serves (Nat.le_refl 1) (Nat.add_comm 1 items.length) inner' s₁ sent₁
    rw [Nat.sub_self, List.drop_zero] at run
    have held : arrayItems name (items.flatMap fun item => q.gathered record [item]) = items := by
      rw [arrayItems, List.flatMap_assoc]
      calc _ = items.flatMap fun item => [item] :=
            List.flatMap_congr fun item _ => QueryStep.arrayItems_gathered gathers.one [item]
        _ = items := List.flatMap_singleton' items
    refine ⟨items.length + 1, requests, _, s₂, (if_pos rfl).symm, asked,
      run.of_move_eq begins (QueryStep.done_ne_standing _), fun r hr => ?_, ?_, ?_, ?_⟩
    · obtain ⟨item, -, hr⟩ := List.mem_flatMap.1 hr
      exact QueryStep.exists_array_of_mem_gathered hr
    · rw [held, if_pos rfl]
    · exact iff_of_true held (.inl rfl)
    · refine iff_of_true (fun page hp full => ?_) (.inl rfl)
      rw [QueryStep.length_pageItems] at full
      omega

/-! ## A shop's items in arrays -/

namespace Join

/-- The items of a shop, those of each page in one array. -/
def gatherQuery (size : Nat) : QueryConfig where
  url := "http://shop/{shop}"
  jsonPath := "$[*]"
  fieldNames := ["items"]
  coalesce := true
  onEmpty := .skip
  paging := .full size "page"

def gatherStep (size : Nat) : QueryStep where
  url := "http://shop/{shop}"
  path := ⟨"$[*]", [.of true [.of false [.wildcard]]]⟩
  fields := ["items"]
  coalesce := true
  onEmpty := .skip
  paging := .full (Paging.pageSize size) "page"

theorem build_gatherQuery (size : Nat) : (gatherQuery size).build {} {} = .ok (gatherStep size) := by
  simp only [gatherQuery, QueryConfig.build, PagingConfig.build, parse_elements]
  rfl

/-- Two shops: the first lists two items one to a page, the second lists three items two to a page. -/
def pageText (address : String) : String :=
  if address = "http://shop/1?page=1" then "[\"pen\"]"
  else if address = "http://shop/1?page=2" then "[\"ink\"]"
  else if address = "http://shop/2?page=1" then "[\"pen\",\"ink\"]"
  else if address = "http://shop/2?page=2" then "[\"nib\"]"
  else "[]"

/-- A server whose state counts the requests. -/
def pageServer : Network Nat where
  send request s := (.answer 200 (Utf8.encode (pageText request.url.text)), s + 1)
  wait _ s := s

theorem find_elements (items : List Json) : (gatherStep size).path.find (.array items) = items := by
  simp [gatherStep, JsonPath.find, JsonPath.Query.select, JsonPath.follow, JsonPath.Segment.select,
    JsonPath.selectAll, JsonPath.Selector.select, JsonPath.children]

/-- The server lists items in pages if its answers, which do not change, are the pages. -/
theorem servesList_pageServer {shop : String} {items : List Json}
    (answers : ∀ page, 1 ≤ page → page ≤ items.length / Paging.pageSize size + 1 →
      (((gatherStep size).request? (shopRecord shop) page).map fun request =>
        ((pageServer.send request 0).1.value "").toOption) =
          some (some (.array (pageItems items (Paging.pageSize size) page)))) :
    (gatherStep size).ServesList pageServer (shopRecord shop) items (Paging.pageSize size) := by
  intro page hp hk
  obtain ⟨request, asks, answered⟩ := Option.map_eq_some_iff.1 (answers page hp hk)
  refine ⟨request, asks, fun s => ⟨_, ⟨find_elements _, nofun, nofun⟩, ?_⟩⟩
  exact @Reply.value_of_toOption (pageServer.send request s).1 _ _ answered

/-- Two items come out whole, one to a page. -/
theorem arrays_in_pages_single :
    ∃ requests out s, requests.map (·.url.text) =
        ["http://shop/1?page=1", "http://shop/1?page=2", "http://shop/1?page=3"] ∧
      Chain.Run pageServer.recorded ((Chain.seed [shopRecord "1"]).addStep (gatherStep 1)) (0, []) 3 out
        ((gatherStep 1).done {} (.seed [])) (s, requests) ∧
      arrayItems "items" out = [.text "pen", .text "ink"] := by
  have gathers : (gatherStep 1).Gathers "items" 1 "page" := ⟨rfl, rfl, rfl, rfl⟩
  have idle : StepState.Idle (gatherStep 1) ⟨{}, false, none, [], {}⟩ := ⟨rfl, rfl, rfl, rfl⟩
  have feeds : (Chain.seed [shopRecord "1"]).move pageServer.recorded (0, []) =
      (.record (shopRecord "1"), .seed [], 0, []) := rfl
  have serves : (gatherStep 1).ServesList pageServer (shopRecord "1") [.text "pen", .text "ink"] 1 := by
    refine servesList_pageServer fun page hp hk => ?_
    obtain rfl | rfl | rfl : page = 1 ∨ page = 2 ∨ page = 3 := by
      have : page ≤ 3 := hk
      omega
    all_goals decide +kernel
  obtain ⟨asked, requests, out, s, count, sent, run, -, whole, -⟩ :=
    arrays_in_pages gathers (Nat.le_refl 1) idle feeds serves
  obtain rfl : asked = 3 := count
  refine ⟨requests, out, s, ?_, run, whole⟩
  calc requests.map (·.url.text) = (requests.map some).filterMap (Option.map (·.url.text)) := by
        rw [List.filterMap_map]
        exact List.filterMap_eq_map.symm ▸ rfl
    _ = _ := by
        rw [sent]
        decide +kernel

/-- Of three items two to a page only the first two come out, and the second page is not asked for. -/
theorem arrays_left_out :
    (gatherQuery 2).build {} {} = .ok (gatherStep 2) ∧
      (gatherStep 2).ServesList pageServer (shopRecord "2") [.text "pen", .text "ink", .text "nib"] 2 ∧
      (Chain.collect pageServer.recorded 9 ((Chain.seed [shopRecord "2"]).addStep (gatherStep 2))
        (0, [])).1.map Except.toOption =
          some (some [[("items", .array [.text "pen", .text "ink"]), ("shop", .text "2")]]) ∧
      (Chain.collect pageServer.recorded 9 ((Chain.seed [shopRecord "2"]).addStep (gatherStep 2))
        (0, [])).2.2.map (·.url.text) = ["http://shop/2?page=1"] := by
  refine ⟨build_gatherQuery 2, servesList_pageServer fun page hp hk => ?_, by decide +kernel, by decide +kernel⟩
  obtain rfl | rfl : page = 1 ∨ page = 2 := by
    have : page ≤ 2 := hk
    omega
  all_goals decide +kernel

end Join

end MetaGraph

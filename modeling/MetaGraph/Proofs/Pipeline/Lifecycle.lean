/-
The life of a task, over every sequence of requests to set it up and to run
it. A task goes only forward, calls its stages in one run only, completes
its output once at the end of that run, and reports exactly what the calls
of that run came to. Nothing is assumed of the stages: they may answer
anything, at any time.
-/
import MetaGraph.Proofs.Except
import MetaGraph.Proofs.Pipeline.Rounds
import Mathlib.Data.List.Chain

open Relation (ReflTransGen)

namespace MetaGraph

variable {σ : Type}

/-! ## Requests and what comes of them -/

/-- How far a task has come, without its stages. -/
inductive Phase where
  | uninitialized
  | initialized
  | extracting
  | exhausted
deriving DecidableEq, Repr

/-- One move forward. -/
inductive Phase.Advances : Phase → Phase → Prop
  | setUp : Advances uninitialized initialized
  | start : Advances initialized extracting
  | finish : Advances extracting exhausted

def TaskState.phase : TaskState σ → Phase
  | uninitialized => .uninitialized
  | initialized _ => .initialized
  | extracting => .extracting
  | exhausted => .exhausted

inductive TaskRequest where
  | init (config : JobConfig) (ctx : RunContext)
  | run (fuel : Nat)

/-- The answer to a request; a run that did not come to its end answers nothing. -/
inductive TaskAnswer where
  | init (result : Except PipelineError Unit)
  | run (result : Option (Except PipelineError TaskReport))

/-- A request that was served: its answer, the phases before and after it, and the calls of
the stages that it led to. -/
structure TaskEvent where
  before : Phase
  answer : TaskAnswer
  after : Phase
  calls : List StageCall

namespace Task

/-- Serves one request. -/
def serve (t : Task σ) : TaskRequest → TaskState σ → σ → TaskAnswer × TaskState σ × σ
  | .init config ctx, state, s =>
    let (result, after, s) := t.init config ctx state s
    (.init result, after, s)
  | .run fuel, state, s =>
    let (result, after, s) := run fuel state s
    (.run result, after, s)

/-- The calls that a request leads to. -/
def callsOf (t : Task σ) (request : TaskRequest) (state : TaskState σ) (s : σ) : List StageCall :=
  (t.watched.serve request state.watched (s, [])).2.2.2

/-- Serves requests one after the other. -/
def events (t : Task σ) : List TaskRequest → TaskState σ → σ → List TaskEvent
  | [], _, _ => []
  | request :: requests, state, s =>
    let (answer, after, s') := t.serve request state s
    ⟨state.phase, answer, after.phase, t.callsOf request state s⟩ :: t.events requests after s'

end Task

/-! ## What holds of every life -/

/-- Whether the request was one to run, and was granted. -/
def TaskEvent.runs (e : TaskEvent) : Bool :=
  match e.before, e.answer with
  | .initialized, .run _ => true
  | _, _ => false

/-- What a run that came to its end did. -/
structure FinishedRun (transforms : Bool) (result : Except PipelineError TaskReport) (after : Phase)
    (calls : List StageCall) : Prop where
  /-- The output is completed once, after all else, however the run ends. -/
  closes_last : ∃ before answer, calls = before ++ [.close answer] ∧ ∀ c ∈ before, c.closes = false
  exhausted_iff : after = .exhausted ↔ ∃ report, result = .ok report
  /-- Round by round, each payload of the source goes to the transformation and what that
  gives to the sink, before the source is asked again. -/
  rounds : ∀ report, result = .ok report → ∃ rounds : List Round,
    (∀ x ∈ rounds, x.Possible transforms) ∧
    calls = rounds.flatMap (Round.calls transforms) ++ [.extract .finished, .close (.ok ())]
  counts : ∀ report, result = .ok report → report = .ofCalls calls
  balance : ∀ report, result = .ok report →
    report.dropped + report.failed + report.loaded = report.extracted + calls.countP StageCall.failsExtract

/-- What holds of every request that a task serves. -/
structure TaskEvent.Proper (transforms : Bool) (e : TaskEvent) : Prop where
  forward : ReflTransGen Phase.Advances e.before e.after
  /-- A task that cannot be set up is left uninitialized; one that was set up before is left
  as it was. -/
  init_failed : ∀ fault, e.answer = .init (.error fault) → e.after = e.before ∧
    (e.before ≠ .uninitialized → ∃ start target, fault = .invalidState start target)
  /-- The stages are called in the run alone. -/
  runs_of_calls : e.calls ≠ [] → e.runs = true
  /-- Any other request to run is refused. -/
  refused : e.runs = false → ∀ result, e.answer = .run result → e.after = e.before ∧
    ∃ start target, result = some (.error (.invalidState start target))
  finished : e.runs = true → ∀ result, e.answer = .run (some result) →
    FinishedRun transforms result e.after e.calls

/-- What holds of all the requests that a task serves. -/
structure Lifecycle (transforms : Bool) (events : List TaskEvent) : Prop where
  proper : ∀ e ∈ events, e.Proper transforms
  /-- The phases are passed through in their order. -/
  forward : List.IsChain (ReflTransGen Phase.Advances)
    (.uninitialized :: events.flatMap fun e => [e.before, e.after])
  runs_once : events.countP TaskEvent.runs ≤ 1

/-! ## Runs -/

theorem FinishedRun.of_error {transforms : Bool} {calls : List StageCall} (e : PipelineError)
    (answer : Except LoadError Unit) (h : ∀ c ∈ calls, c.closes = false) :
    FinishedRun transforms (.error e) .extracting (calls ++ [.close answer]) where
  closes_last := ⟨calls, answer, rfl, h⟩
  exhausted_iff := by simp
  rounds := by simp
  counts := by simp
  balance := by simp

theorem FinishedRun.of_rounds {transforms : Bool} {rounds : List Round}
    (h : ∀ x ∈ rounds, x.Possible transforms) :
    FinishedRun transforms (.ok (rounds.foldl Round.count {})) .exhausted
      (rounds.flatMap (Round.calls transforms) ++ [.extract .finished] ++ [.close (.ok ())]) where
  closes_last := by
    refine ⟨_, .ok (), rfl, List.forall_mem_append.2 ⟨?_, by simp [StageCall.closes]⟩⟩
    intro c hc
    obtain ⟨x, -, hc⟩ := List.mem_flatMap.1 hc
    exact x.closes_calls transforms c hc
  exhausted_iff := by simp
  rounds := fun _ _ => ⟨rounds, h, by simp⟩
  counts := by
    rintro _ ⟨⟩
    rw [Round.foldl_count transforms, TaskReport.zero_add, TaskReport.ofCalls_append,
      TaskReport.ofCalls_append]
    rfl
  balance := by
    rintro _ ⟨⟩
    rw [Round.foldl_count transforms, TaskReport.zero_add, Round.balance, List.countP_append,
      List.countP_append]
    rfl

namespace Task

/-- What a watched run of a task that is set up does. -/
theorem run_watched (r : Running σ) (fuel : Nat) (s : σ) : ∃ calls,
    run fuel (.initialized r.watched) (s, []) =
      ((run fuel (.initialized r) s).1, (run fuel (.initialized r) s).2.1.watched,
        (run fuel (.initialized r) s).2.2, calls) ∧
    ReflTransGen Phase.Advances .initialized (run fuel (.initialized r) s).2.1.phase ∧
    ∀ result, (run fuel (.initialized r) s).1 = some result →
      FinishedRun r.transforms result (run fuel (.initialized r) s).2.1.phase calls := by
  obtain ⟨front, hpump, hopen, hrounds⟩ := r.pump_watched fuel {} s []
  have started : ReflTransGen Phase.Advances .initialized .extracting := .single .start
  simp only [run, hpump, List.nil_append]
  rcases hp : r.pump fuel {} s with ⟨_ | e | report, s₁⟩
  · exact ⟨front, rfl, started, by simp⟩
  · refine ⟨front ++ [.close (r.load.close s₁).1], rfl, started, ?_⟩
    rintro _ ⟨⟩
    exact .of_error e _ hopen
  · rw [hp] at hrounds
    obtain ⟨rounds, hpossible, hfront, rfl⟩ := hrounds report rfl
    refine ⟨front ++ [.close (r.load.close s₁).1], ?_⟩
    simp only [Running.watched, Load.watched, watch]
    rcases hc : r.load.close s₁ with ⟨e | _, s₂⟩ <;> simp only [hc]
    · refine ⟨rfl, started, ?_⟩
      rintro _ ⟨⟩
      exact .of_error _ _ hopen
    · refine ⟨rfl, started.tail .finish, ?_⟩
      rintro _ ⟨⟩
      rw [hfront]
      exact .of_rounds hpossible

/-! ## Requests -/

/-- The stages of a task that is set up are its own: they transform if the task does. -/
def Owns (t : Task σ) : TaskState σ → Prop
  | .initialized r => r.transforms = t.transformer.isSome
  | _ => True

theorem setUpStages_owns {t : Task σ} {config : JobConfig} {ctx : RunContext} {s s' : σ} {r : Running σ}
    (h : t.setUpStages config ctx s = (.ok r, s')) : r.transforms = t.transformer.isSome := by
  unfold setUpStages at h
  split at h
  · cases h
  split at h
  · cases h
  cases ht : t.transformer with
  | none =>
    simp only [ht, Prod.mk.injEq] at h
    obtain ⟨load, -, rfl⟩ := except_map_ok.1 h.1
    rfl
  | some transformer =>
    simp only [ht] at h
    split at h
    · cases h
    rename_i transform hf
    obtain ⟨f, -, rfl⟩ := except_map_ok.1 hf
    simp only [Prod.mk.injEq] at h
    obtain ⟨load, -, rfl⟩ := except_map_ok.1 h.1
    rfl

theorem init_owns (t : Task σ) (config : JobConfig) (ctx : RunContext) (state : TaskState σ) (s : σ)
    (h : t.Owns state) : t.Owns (t.init config ctx state s).2.1 := by
  cases state with
  | uninitialized =>
    simp only [init]
    rcases hr : t.setUpStages config ctx s with ⟨_ | r, s'⟩
    · trivial
    · exact setUpStages_owns hr
  | initialized | extracting | exhausted => exact h

theorem run_owns (t : Task σ) (fuel : Nat) (state : TaskState σ) (s : σ)
    (h : t.Owns state) : t.Owns (run fuel state s).2.1 := by
  cases state with
  | initialized r =>
    simp only [run]
    split
    · trivial
    · split <;> trivial
  | uninitialized | extracting | exhausted => exact h

theorem serve_owns (t : Task σ) (request : TaskRequest) (state : TaskState σ) (s : σ)
    (h : t.Owns state) : t.Owns (t.serve request state s).2.1 := by
  cases request with
  | init config ctx => exact t.init_owns config ctx state s h
  | run fuel => exact t.run_owns fuel state s h

/-- A request that was served, as the event it is. -/
def event (t : Task σ) (request : TaskRequest) (state : TaskState σ) (s : σ) : TaskEvent :=
  ⟨state.phase, (t.serve request state s).1, (t.serve request state s).2.1.phase, t.callsOf request state s⟩

theorem init_proper (t : Task σ) (config : JobConfig) (ctx : RunContext) (state : TaskState σ) (s : σ) :
    (t.event (.init config ctx) state s).Proper t.transformer.isSome := by
  have nocalls : t.callsOf (.init config ctx) state s = [] := by
    simp only [callsOf, serve, init_watched]
  have noruns : (t.event (.init config ctx) state s).runs = false := by
    cases state <;> rfl
  have answer : (t.event (.init config ctx) state s).answer = .init (t.init config ctx state s).1 := rfl
  refine ⟨?_, ?_, absurd nocalls, by simp [answer], by simp [noruns]⟩
  · cases state with
    | uninitialized =>
      simp only [event, serve, init]
      rcases t.setUpStages config ctx s with ⟨_ | r, s'⟩
      · exact .refl
      · exact .single .setUp
    | initialized | extracting | exhausted => exact .refl
  · cases state with
    | uninitialized =>
      simp only [event, serve, init]
      rcases t.setUpStages config ctx s with ⟨_ | r, s'⟩
      · exact fun _ _ => ⟨rfl, fun h => absurd rfl h⟩
      · simp
    | initialized | extracting | exhausted =>
      rintro _ ⟨⟩
      exact ⟨rfl, fun _ => ⟨_, _, rfl⟩⟩

theorem run_proper (t : Task σ) (fuel : Nat) (state : TaskState σ) (s : σ) (h : t.Owns state) :
    (t.event (.run fuel) state s).Proper t.transformer.isSome := by
  have answer : (t.event (.run fuel) state s).answer = .run (run fuel state s).1 := rfl
  cases state with
  | initialized r =>
    obtain ⟨calls, hrun, hforward, hfinished⟩ := run_watched r fuel s
    have hcalls : t.callsOf (.run fuel) (.initialized r) s = calls := by
      simp only [callsOf, serve, TaskState.watched, hrun]
    have runs : (t.event (.run fuel) (.initialized r) s).runs = true := rfl
    refine ⟨hforward, by simp [answer], fun _ => runs, by simp [runs], ?_⟩
    intro _ result hr
    rw [answer, TaskAnswer.run.injEq] at hr
    have hfinished := hfinished result hr
    rw [show r.transforms = t.transformer.isSome from h] at hfinished
    change FinishedRun _ result (run fuel (.initialized r) s).2.1.phase (t.callsOf (.run fuel) _ s)
    rwa [hcalls]
  | uninitialized | extracting | exhausted =>
    refine ⟨.refl, by simp [answer], fun h => absurd rfl h, ?_, fun h => absurd h Bool.false_ne_true⟩
    rintro - _ ⟨⟩
    exact ⟨rfl, _, _, rfl⟩

theorem event_proper (t : Task σ) (request : TaskRequest) (state : TaskState σ) (s : σ) (h : t.Owns state) :
    (t.event request state s).Proper t.transformer.isSome := by
  cases request with
  | init config ctx => exact t.init_proper config ctx state s
  | run fuel => exact t.run_proper fuel state s h

/-! ## Lives -/

theorem events_cons (t : Task σ) (request : TaskRequest) (requests : List TaskRequest) (state : TaskState σ)
    (s : σ) : t.events (request :: requests) state s = t.event request state s ::
      t.events requests (t.serve request state s).2.1 (t.serve request state s).2.2 := rfl

theorem events_proper (t : Task σ) (requests : List TaskRequest) (state : TaskState σ) (s : σ)
    (h : t.Owns state) : ∀ e ∈ t.events requests state s, e.Proper t.transformer.isSome := by
  induction requests generalizing state s with
  | nil => exact fun _ h => absurd h List.not_mem_nil
  | cons request requests ih =>
    rw [events_cons, List.forall_mem_cons]
    exact ⟨t.event_proper request state s h, ih _ _ (t.serve_owns request state s h)⟩

theorem events_forward (t : Task σ) (requests : List TaskRequest) (state : TaskState σ) (s : σ)
    (h : t.Owns state) : List.IsChain (ReflTransGen Phase.Advances)
      (state.phase :: (t.events requests state s).flatMap fun e => [e.before, e.after]) := by
  induction requests generalizing state s with
  | nil => exact .singleton _
  | cons request requests ih =>
    have rest := ih _ (t.serve request state s).2.2 (t.serve_owns request state s h)
    exact .cons_cons .refl (.cons_cons (t.event_proper request state s h).forward rest)

theorem started_of_runs (t : Task σ) {request : TaskRequest} {state : TaskState σ} {s : σ}
    (h : (t.event request state s).runs = true) :
    (t.serve request state s).2.1.phase = .extracting ∨ (t.serve request state s).2.1.phase = .exhausted := by
  cases state with
  | initialized r =>
    cases request with
    | init config ctx => cases h
    | run fuel =>
      simp only [serve, run]
      split
      · exact .inl rfl
      · split <;> simp [TaskState.phase]
  | uninitialized | extracting | exhausted => cases h

/-- Once a task started its run, or ended it, none is granted any more. -/
theorem events_started (t : Task σ) (requests : List TaskRequest) (state : TaskState σ) (s : σ)
    (h : state.phase = .extracting ∨ state.phase = .exhausted) :
    (t.events requests state s).countP TaskEvent.runs = 0 := by
  induction requests generalizing state s with
  | nil => rfl
  | cons request requests ih =>
    have same : (t.serve request state s).2.1 = state ∧ (t.event request state s).runs = false := by
      cases state with
      | uninitialized | initialized => simp [TaskState.phase] at h
      | extracting | exhausted => cases request <;> exact ⟨rfl, rfl⟩
    rw [events_cons, List.countP_cons_of_neg (by simp [same.2]), same.1]
    exact ih state _ h

theorem events_once (t : Task σ) (requests : List TaskRequest) (state : TaskState σ) (s : σ) :
    (t.events requests state s).countP TaskEvent.runs ≤ 1 := by
  induction requests generalizing state s with
  | nil => exact Nat.zero_le 1
  | cons request requests ih =>
    rw [events_cons, List.countP_cons]
    cases hruns : (t.event request state s).runs with
    | false => simpa using ih _ _
    | true => simp [t.events_started requests _ _ (t.started_of_runs hruns)]

/-- Whatever its stages do and whatever is asked of it, a task that is not set up leads the
life of a task. -/
theorem lifecycle (t : Task σ) (requests : List TaskRequest) (s : σ) :
    Lifecycle t.transformer.isSome (t.events requests .uninitialized s) where
  proper := t.events_proper requests .uninitialized s trivial
  forward := t.events_forward requests .uninitialized s trivial
  runs_once := t.events_once requests .uninitialized s

/-- A source that gives what stands in a list. -/
def scriptedSource : Extract (List Extracted)
  | [] => (.finished, [])
  | x :: xs => (x, xs)

/-- A transformation that drops records without fields. -/
def scriptedFilter : Transform (List Extracted)
  | .record [], s => (.ok none, s)
  | p, s => (.ok (some p), s)

/-- A task with such a source and transformation, and with a sink that takes everything. -/
def scripted : Task (List Extracted) where
  extractor := ⟨"extractor.scripted", scriptedSource, fun _ _ s => (.ok scriptedSource, s)⟩
  transformer := some ⟨"transformer.scripted", scriptedFilter, fun _ _ s => (.ok scriptedFilter, s)⟩
  loader := ⟨"loader.scripted", fun _ _ s => (.ok ⟨fun _ s => (.ok (), s), fun s => (.ok (), s)⟩, s)⟩

theorem lifecycle_scripted :
    let items : List Extracted := [.payload (.record [("id", .ofNat 1)]), .failed (.record "bad row"),
      .payload (.record [])]
    let events := scripted.events [.run 4, .init .empty { runId := "1" }, .run 4, .run 4] .uninitialized items
    events.map (fun e => (e.before, e.after, e.calls.length)) =
        [(.uninitialized, .uninitialized, 0), (.uninitialized, .initialized, 0),
          (.initialized, .exhausted, 8), (.exhausted, .exhausted, 0)] ∧
      (∃ e ∈ events, e.answer = .run (some (.ok ⟨2, 1, 1, 1⟩))) ∧
      Lifecycle true events :=
  ⟨rfl, ⟨_, .tail _ (.tail _ (.head _)), rfl⟩, scripted.lifecycle _ _⟩

end Task

end MetaGraph

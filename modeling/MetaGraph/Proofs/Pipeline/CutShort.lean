/-
What it changes that a record which cannot be bound to its model ends the
run: the run is only cut short. Of two runs of the same stages, one with such
faults fatal and one without, both do the same up to the first such fault.
There the one ends and the other drops the record and goes on.
-/
import MetaGraph.Component.Assembly
import MetaGraph.Proofs.Pipeline.Lifecycle

namespace MetaGraph

variable {σ : Type}

/-- The faults of a record that cannot be bound to its model, found by the source or by the
transformation. -/
inductive PipelineError.OfModel : PipelineError → Prop
  | extract (e : ModelError) : OfModel (.extract (.model e))
  | transform (e : ModelError) : OfModel (.transform (.model e))

/-! ## Steps -/

namespace Running

/-- The same stages, set up once with faults of models fatal and once without. -/
structure Stricter (a b : Running σ) : Prop where
  fatal : a.config.failOnModelError = true
  tolerant : b.config.failOnModelError = false
  extract : b.extract = a.extract
  transform : b.transform = a.transform
  load : b.load = a.load

theorem Stricter.watched {a b : Running σ} (h : a.Stricter b) : a.watched.Stricter b.watched where
  fatal := h.fatal
  tolerant := h.tolerant
  extract := congrArg Extract.watched h.extract
  transform := congrArg (Option.map Transform.watched) h.transform
  load := congrArg Load.watched h.load

theorem pump_goesOn {r : Running σ} {report report' : TaskReport} {s s' : σ}
    (h : r.step report s = (.goesOn report', s')) (n : Nat) :
    r.pump (n + 1) report s = r.pump n report' s' := by
  rw [pump, h]

/-- Both steps are the same, or the first ends with a fault of a model where the second, in
the same state, goes on. -/
def EndsOrSame (x y : TaskStep × σ) : Prop :=
  y = x ∨ ∃ e report s, e.OfModel ∧ x = (.fails e, s) ∧ y = (.goesOn report, s)

section

variable {a b : Running σ} (h : a.Stricter b)
include h

theorem Stricter.loadStep_eq (report : TaskReport) (p : Payload) (s : σ) :
    b.loadStep report p s = a.loadStep report p s := by
  simp only [loadStep, h.load]

theorem Stricter.transformStep (report : TaskReport) (p : Payload) (s : σ) :
    EndsOrSame (a.transformStep report p s) (b.transformStep report p s) := by
  simp only [Running.transformStep, h.transform, h.loadStep_eq, h.fatal, h.tolerant, Bool.true_and,
    Bool.false_and, Bool.false_eq_true, if_false]
  cases a.transform with
  | none => exact .inl rfl
  | some f =>
    dsimp only
    rcases f p s with ⟨e | _ | q, s'⟩
    · cases e with
      | model e => exact .inr ⟨_, _, s', .transform e, rfl, rfl⟩
      | field | template | unsupportedPayload => exact .inl rfl
    · exact .inl rfl
    · exact .inl rfl

theorem Stricter.step (report : TaskReport) (s : σ) : EndsOrSame (a.step report s) (b.step report s) := by
  simp only [Running.step, h.extract, dropsExtract, h.fatal, h.tolerant, Bool.true_and, Bool.false_and,
    Bool.not_false, Bool.and_true]
  rcases a.extract s with ⟨p | _ | e | _, s'⟩
  · exact h.transformStep _ p s'
  · exact .inl rfl
  · cases e with
    | model e => exact .inr ⟨_, _, s', .extract e, rfl, rfl⟩
    | record | source | rest | io => exact .inl rfl
  · exact .inl rfl

/-- Both runs are the same, or the first ends with a fault of a model after some steps where
the second, in the same state, goes on. -/
theorem Stricter.pump (fuel : Nat) (report : TaskReport) (s : σ) :
    b.pump fuel report s = a.pump fuel report s ∨
    ∃ e s' k report', e.OfModel ∧ k ≤ fuel ∧ a.pump fuel report s = (some (.error e), s') ∧
      ∀ n, b.pump (k + n) report s = b.pump n report' s' := by
  induction fuel generalizing report s with
  | zero => exact .inl rfl
  | succ fuel ih =>
    rcases h.step report s with same | ⟨e, report', s', he, ha, hb⟩
    · -- the step is the same, so the rest of the runs decides
      rcases hs : a.step report s with ⟨report₁ | _ | e, s₁⟩ <;> rw [hs] at same
      · rw [pump_goesOn hs, pump_goesOn same]
        refine (ih report₁ s₁).imp_right ?_
        rintro ⟨e, s', k, report', he, hk, ha, hb⟩
        refine ⟨e, s', k + 1, report', he, Nat.succ_le_succ hk, ha, fun n => ?_⟩
        rw [Nat.succ_add, pump_goesOn same, hb]
      · exact .inl (by rw [Running.pump, Running.pump, hs, same])
      · exact .inl (by rw [Running.pump, Running.pump, hs, same])
    · refine .inr ⟨e, s', 1, report', he, Nat.succ_le_succ (Nat.zero_le fuel), ?_, fun n => ?_⟩
      · rw [Running.pump, ha]
      · rw [Nat.add_comm, pump_goesOn hb]

end

/-- A run that came to its end is not changed by more steps. -/
theorem pump_le {r : Running σ} {n m : Nat} {report : TaskReport} {s : σ} (hn : n ≤ m)
    (h : (r.pump n report s).1 ≠ none) : r.pump m report s = r.pump n report s := by
  induction n generalizing m report s with
  | zero => exact absurd rfl h
  | succ n ih =>
    obtain ⟨m, rfl⟩ : ∃ m', m = m' + 1 := ⟨m - 1, by omega⟩
    rw [pump] at h
    rw [pump, pump]
    cases hs : r.step report s with | mk result s₁ =>
    rw [hs] at h
    cases result with
    | goesOn report₁ => exact ih (Nat.le_of_succ_le_succ hn) h
    | ends | fails => rfl

/-- Of a run that came to its end, any other with as many steps or to the end is the same. -/
theorem pump_eq_of_ended {r : Running σ} {n m : Nat} {report : TaskReport} {s : σ}
    (h : (r.pump n report s).1 ≠ none) (hm : n ≤ m ∨ (r.pump m report s).1 ≠ none) :
    r.pump m report s = r.pump n report s := by
  rcases le_total n m with hn | hn
  · exact pump_le hn h
  · rcases hm with hm | hm
    · rw [Nat.le_antisymm hn hm]
    · exact (pump_le hn hm).symm

end Running

/-! ## Runs -/

/-- The payload that the call handed to the sink. -/
def StageCall.handed? : StageCall → Option Payload
  | load p _ => some p
  | _ => none

/-- What comes of a run: its result, if it came to its end, and the calls of its stages. -/
structure Outcome where
  result : Option (Except PipelineError TaskReport)
  calls : List StageCall

namespace Outcome

/-- The payloads that were handed to the sink, whatever it answered. -/
def handedOver (o : Outcome) : List Payload := o.calls.filterMap StageCall.handed?

/-- The first run is the second one, or the beginning of it: with a report it is the whole
run, and if it ends before the other does, it ends with a fault of a model. -/
structure CutsShort (short long : Outcome) : Prop where
  whole : ∀ report, short.result = some (.ok report) → long = short
  handed : ∀ e, short.result = some (.error e) → short.handedOver <+: long.handedOver
  fault : ∀ e, short.result = some (.error e) → e.OfModel ∨ long = short

theorem CutsShort.of_ended {short long : Outcome} (h : short.result ≠ none → long = short) :
    CutsShort short long where
  whole _ hr := h (by simp [hr])
  handed _ hr := h (by simp [hr]) ▸ List.prefix_rfl
  fault _ hr := .inr (h (by simp [hr]))

end Outcome

namespace Running

/-- What comes of a run of stages that are set up. -/
def outcome (r : Running σ) (s : σ) (fuel : Nat) : Outcome where
  result := (Task.run fuel (.initialized r) s).1
  calls := (Task.run fuel (.initialized r.watched) (s, [])).2.2.2

/-- A run comes to what a watched run does. -/
theorem result_outcome (r : Running σ) (s : σ) (fuel : Nat) :
    (r.outcome s fuel).result = (Task.run fuel (.initialized r.watched) (s, [])).1 := by
  obtain ⟨calls, hrun, -⟩ := Task.run_watched r fuel s
  rw [hrun]
  rfl

/-- A run ends when the source is exhausted or fails. -/
theorem result_eq_none_iff (r : Running σ) (s : σ) (fuel : Nat) :
    (r.outcome s fuel).result = none ↔ (r.watched.pump fuel {} (s, [])).1 = none := by
  rw [result_outcome, Task.run]
  rcases r.watched.pump fuel {} (s, []) with ⟨_ | e | report, w⟩
  · exact Iff.rfl
  · simp
  · rcases hc : r.watched.load.close w with ⟨_ | _, w'⟩ <;> simp [hc]

/-- Completing the output hands over nothing. -/
theorem handedOver_outcome (r : Running σ) (s : σ) (fuel : Nat) :
    (r.outcome s fuel).handedOver = (r.watched.pump fuel {} (s, [])).2.2.filterMap StageCall.handed? := by
  have close (w : Watched σ) : (r.watched.load.close w).2.2.filterMap StageCall.handed? =
      w.2.filterMap StageCall.handed? := by
    simp [watched, Load.watched, watch, StageCall.handed?]
  simp only [Outcome.handedOver, outcome, Task.run]
  rcases r.watched.pump fuel {} (s, []) with ⟨_ | e | report, w⟩
  · rfl
  · exact close w
  · rw [← close w]
    rcases hc : r.watched.load.close w with ⟨_ | _, w'⟩ <;> simp [hc]

theorem outcome_congr {a b : Running σ} (h : b.load = a.load) {s : σ} {n m : Nat}
    (hp : b.watched.pump m {} (s, []) = a.watched.pump n {} (s, [])) : b.outcome s m = a.outcome s n := by
  have load : b.watched.load = a.watched.load := congrArg Load.watched h
  have same : Task.run m (.initialized b.watched) (s, []) = Task.run n (.initialized a.watched) (s, []) := by
    simp only [Task.run, hp, load]
  have result := b.result_outcome s m
  rw [same, ← result_outcome] at result
  exact (Outcome.mk.injEq ..).mpr ⟨result, congrArg (·.2.2.2) same⟩

/-- A run with faults of models fatal cuts short any other that has as many steps, or that
came to its end. -/
theorem Stricter.cutsShort {a b : Running σ} (h : a.Stricter b) (s : σ) {n m : Nat}
    (hm : n ≤ m ∨ (b.outcome s m).result ≠ none) : (a.outcome s n).CutsShort (b.outcome s m) := by
  have hm : n ≤ m ∨ (b.watched.pump m {} (s, [])).1 ≠ none := hm.imp_right (mt (b.result_eq_none_iff s m).2)
  rcases h.watched.pump n {} (s, []) with same | ⟨e, w, k, report, he, hk, ha, hb⟩
  · refine .of_ended fun hr => outcome_congr h.load (Eq.trans (pump_eq_of_ended ?_ hm) same)
    rw [same]
    exact mt (a.result_eq_none_iff s n).2 hr
  · -- the second run goes on from where the first one ended
    have result : (a.outcome s n).result = some (.error e) := by
      rw [result_outcome, Task.run, ha]
    have far : k ≤ m := by
      rcases hm with hm | hm
      · exact hk.trans hm
      · by_contra hlt
        have stuck := pump_le (Nat.le_of_not_le hlt) hm
        rw [show k = k + 0 from rfl, hb 0] at stuck
        exact hm (congrArg Prod.fst stuck.symm)
    refine ⟨fun report h => ?_, fun e' _ => ?_, fun e' h => ?_⟩
    · rw [result] at h
      cases h
    · obtain ⟨new, hnew, -⟩ := b.pump_watched (m - k) report w.1 w.2
      rw [handedOver_outcome, handedOver_outcome, ha, ← Nat.add_sub_cancel' far, hb, hnew,
        List.filterMap_append]
      exact List.prefix_append ..
    · rw [result] at h
      cases h
      exact .inl he

end Running

/-! ## Tasks -/

namespace Task

/-- Two configurations that set up the stages of a task alike, and of which only the first
makes faults of models fatal. -/
structure OnlyFatal (t : Task σ) (strict lenient : JobConfig) : Prop where
  fatal : ∃ settings, (strict.scope TaskConfig.scope).extract TaskConfig.settings = .ok settings ∧
    settings.failOnModelError = true
  tolerant : ∃ settings, (lenient.scope TaskConfig.scope).extract TaskConfig.settings = .ok settings ∧
    settings.failOnModelError = false
  extractor : t.extractor.setUp (lenient.scope t.extractor.scope) =
    t.extractor.setUp (strict.scope t.extractor.scope)
  transformer : ∀ x, t.transformer = some x →
    x.setUp (lenient.scope x.scope) = x.setUp (strict.scope x.scope)
  loader : t.loader.setUp (lenient.scope t.loader.scope) = t.loader.setUp (strict.scope t.loader.scope)

/-- The stages are set up alike, or fail alike. -/
theorem OnlyFatal.setUpStages {t : Task σ} {strict lenient : JobConfig} (h : t.OnlyFatal strict lenient)
    (ctx : RunContext) (s : σ) :
    (∃ e s', t.setUpStages strict ctx s = (.error e, s') ∧ t.setUpStages lenient ctx s = (.error e, s')) ∨
    ∃ a b s', t.setUpStages strict ctx s = (.ok a, s') ∧ t.setUpStages lenient ctx s = (.ok b, s') ∧
      a.Stricter b := by
  obtain ⟨c, hc, fatal⟩ := h.fatal
  obtain ⟨d, hd, tolerant⟩ := h.tolerant
  simp only [Task.setUpStages, hc, hd, h.extractor, h.loader]
  rcases t.extractor.setUp (strict.scope t.extractor.scope) ctx s with ⟨e | extract, s₁⟩
  · exact .inl ⟨e, s₁, rfl, rfl⟩
  cases ht : t.transformer with
  | none =>
    dsimp only
    rcases hl : t.loader.setUp (strict.scope t.loader.scope) ctx s₁ with ⟨e | load, s₂⟩ <;>
      simp only [hl, Except.map]
    · exact .inl ⟨e, s₂, rfl, rfl⟩
    · exact .inr ⟨_, _, s₂, rfl, rfl, fatal, tolerant, rfl, rfl, rfl⟩
  | some x =>
    simp only [h.transformer x ht]
    rcases hx : x.setUp (strict.scope x.scope) ctx s₁ with ⟨e | f, s₂⟩ <;> simp only [hx, Except.map]
    · exact .inl ⟨e, s₂, rfl, rfl⟩
    rcases hl : t.loader.setUp (strict.scope t.loader.scope) ctx s₂ with ⟨e | load, s₃⟩ <;> simp only [hl]
    · exact .inl ⟨e, s₃, rfl, rfl⟩
    · exact .inr ⟨_, _, s₃, rfl, rfl, fatal, tolerant, rfl, rfl, rfl⟩

/-- What comes of a run after a task was set up; the calls are those of the run. -/
def outcome (t : Task σ) (config : JobConfig) (ctx : RunContext) (s : σ) (fuel : Nat) : Outcome :=
  let (_, state, s) := t.init config ctx .uninitialized s
  ⟨(run fuel state s).1, t.callsOf (.run fuel) state s⟩

theorem outcome_of_error {t : Task σ} {config : JobConfig} {ctx : RunContext} {s s' : σ} {e : ConfigError}
    (h : t.setUpStages config ctx s = (.error e, s')) (fuel : Nat) :
    t.outcome config ctx s fuel = ⟨some (.error (.invalidState "uninitialized" "extracting")), []⟩ := by
  simp only [outcome, init, h]
  rfl

theorem outcome_of_ok {t : Task σ} {config : JobConfig} {ctx : RunContext} {s s' : σ} {r : Running σ}
    (h : t.setUpStages config ctx s = (.ok r, s')) : t.outcome config ctx s = r.outcome s' := by
  funext fuel
  simp only [outcome, init, h]
  rfl

/-- **Faults of models that are fatal only cut a run short.** A task is set up alike with such
faults fatal and without. If it then runs to a report, the other run gives the same report by
the same calls. If it fails, it handed to the sink the first of the payloads that the other
run hands over, and it failed with a fault of a model or as the other run does. The other run
is given as many steps, or as many as it takes. -/
theorem cutsShort_of_onlyFatal {t : Task σ} {strict lenient : JobConfig} (h : t.OnlyFatal strict lenient)
    (ctx : RunContext) (s : σ) :
    (t.init lenient ctx .uninitialized s).1 = (t.init strict ctx .uninitialized s).1 ∧
    ∀ n m, n ≤ m ∨ (t.outcome lenient ctx s m).result ≠ none →
      (t.outcome strict ctx s n).CutsShort (t.outcome lenient ctx s m) := by
  rcases h.setUpStages ctx s with ⟨e, s', ha, hb⟩ | ⟨a, b, s', ha, hb, stricter⟩
  · refine ⟨by simp only [init, ha, hb], fun n m _ => .of_ended fun _ => ?_⟩
    rw [outcome_of_error ha, outcome_of_error hb]
  · refine ⟨by simp only [init, ha, hb], fun n m hm => ?_⟩
    rw [outcome_of_ok ha, outcome_of_ok hb] at *
    exact stricter.cutsShort s' hm

end Task

/-! ## A file with a bad line -/

namespace Assembly

/-- Three statistics; the second is of a table without a schema. -/
def undottedStats : FileStore where
  entries := [(["rows.csv"], .file (Utf8.encode
    ("table_name,col_name,stat_name,stat_val,start_epoch,end_epoch\n" ++
      "core.orders,id,max,7,1,2\norders,id,min,2,1,2\ncore.orders,id,sum,9,1,2\n")))]

/-- The settings of a job that loads them. -/
def undottedConfig (fatal : Bool) : JobConfig where
  tree := .ok [
    ("extractor", .table [("csv", .table
      [("file_location", .text "/rows.csv"), ("model_class", .text "table_column_stats")])]),
    ("loader", .table [("filesystem_csv", .table
      [("node_dir_path", .text "/nodes"), ("relationship_dir_path", .text "/rels")])]),
    ("task", .table [("fail_on_model_error", .bool fatal)])]

def undottedTask : Task (RunState Unit) where
  extractor := csvExtractor
  loader := bulkLoader

def undottedOutcome (fatal : Bool) : Outcome :=
  undottedTask.outcome (undottedConfig fatal) { runId := "1" } { files := undottedStats, network := () } 4

/-- With such faults fatal the run fails at the second statistic, when one was handed over;
without, it reports it as lost and hands over the third one too. -/
theorem cutsShort_undotted :
    undottedTask.OnlyFatal (undottedConfig true) (undottedConfig false) ∧
    (undottedOutcome true).CutsShort (undottedOutcome false) ∧
    (undottedOutcome true).result = some (.error (.extract (.model (.invalidValue "table_column_stats"
      "table_name" "expected 'schema.table' when no schema is given, got \"orders\"")))) ∧
    (undottedOutcome true).handedOver.length = 1 ∧
    (undottedOutcome false).result = some (.ok ⟨2, 0, 1, 2⟩) ∧
    (undottedOutcome false).handedOver.length = 2 := by
  have only : undottedTask.OnlyFatal (undottedConfig true) (undottedConfig false) :=
    { fatal := ⟨⟨true, 500⟩, rfl, rfl⟩
      tolerant := ⟨⟨false, 500⟩, rfl, rfl⟩
      extractor := rfl
      transformer := nofun
      loader := rfl }
  exact ⟨only, (Task.cutsShort_of_onlyFatal only _ _).2 4 4 (.inl (Nat.le_refl 4)), by decide +kernel⟩

end Assembly

end MetaGraph

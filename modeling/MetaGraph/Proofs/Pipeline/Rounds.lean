/-
What a run of a task does, round by round: in each round the source is asked
once, and what it gives is carried as far as it goes. The calls of a run are
those of its rounds, with a last one that ends or fails it, and the report
of a run is the count of its rounds.
-/
import MetaGraph.Proofs.Pipeline.Watched

namespace MetaGraph

/-! ## Calls -/

namespace StageCall

/-- The payload that came from the source with the call. -/
def payload? : StageCall → Option Payload
  | extract (.payload p) => some p
  | _ => none

/-- Whether the call is one of the source that failed. -/
def failsExtract : StageCall → Bool
  | extract (.failed _) => true
  | _ => false

/-- Whether the call is one of the transformation that dropped its payload. -/
def drops : StageCall → Bool
  | transform _ (.ok none) => true
  | _ => false

/-- Whether the call failed, at any of the stages that a payload goes through. -/
def fails : StageCall → Bool
  | extract (.failed _) | transform _ (.error _) | load _ (.error _) => true
  | _ => false

/-- Whether the call put a payload into the sink. -/
def loads : StageCall → Bool
  | load _ (.ok ()) => true
  | _ => false

def closes : StageCall → Bool
  | close _ => true
  | _ => false

end StageCall

/-- The counts of a report, taken from calls. -/
def TaskReport.ofCalls (calls : List StageCall) : TaskReport where
  extracted := (calls.filterMap StageCall.payload?).length
  dropped := calls.countP StageCall.drops
  failed := calls.countP StageCall.fails
  loaded := calls.countP StageCall.loads

/-! ## Rounds -/

/-- What became of a payload. -/
inductive Fate where
  | dropped
  | spoiled (e : TransformError)
  | handedOn (q : Payload) (answer : Except LoadError Unit)

/-- A round after which the run goes on. -/
inductive Round where
  | waited
  | skipped (e : ExtractError)
  | taken (p : Payload) (fate : Fate)

namespace Fate

/-- The calls by which a payload met its fate; whether there is a transformation is told. -/
def calls (transforms : Bool) (p : Payload) : Fate → List StageCall
  | dropped => [.transform p (.ok none)]
  | spoiled e => [.transform p (.error e)]
  | handedOn q answer => (if transforms then [.transform p (.ok (some q))] else []) ++ [.load q answer]

/-- The fates that a payload can meet while the run goes on: without a transformation it is
handed on as it is, and the sink took it or lost only it. -/
def Possible (transforms : Bool) (p : Payload) : Fate → Prop
  | dropped | spoiled _ => transforms = true
  | handedOn q answer => (transforms = false → q = p) ∧ ∀ e, answer = .error e → e.isRecordLevel = true

/-- A report with the fate of one more payload. -/
def count (report : TaskReport) : Fate → TaskReport
  | dropped => { report with dropped := report.dropped + 1 }
  | spoiled _ | handedOn _ (.error _) => { report with failed := report.failed + 1 }
  | handedOn _ (.ok ()) => { report with loaded := report.loaded + 1 }

end Fate

namespace Round

def calls (transforms : Bool) : Round → List StageCall
  | waited => [.extract .working]
  | skipped e => [.extract (.failed e)]
  | taken p fate => .extract (.payload p) :: fate.calls transforms p

/-- The rounds after which a run can go on: what is skipped is a fault of one record. -/
def Possible (transforms : Bool) : Round → Prop
  | waited => True
  | skipped e => e.isRecordLevel = true
  | taken p fate => fate.Possible transforms p

/-- A report with one more round. -/
def count (report : TaskReport) : Round → TaskReport
  | waited => report
  | skipped _ => { report with failed := report.failed + 1 }
  | taken _ fate => fate.count { report with extracted := report.extracted + 1 }

end Round

/-! ## Counting -/

instance : Add TaskReport where
  add a b := ⟨a.extracted + b.extracted, a.dropped + b.dropped, a.failed + b.failed, a.loaded + b.loaded⟩

theorem TaskReport.add_def (a b : TaskReport) : a + b =
    ⟨a.extracted + b.extracted, a.dropped + b.dropped, a.failed + b.failed, a.loaded + b.loaded⟩ := rfl

theorem TaskReport.add_assoc (a b c : TaskReport) : a + b + c = a + (b + c) := by
  simp only [add_def, Nat.add_assoc]

theorem TaskReport.zero_add (a : TaskReport) : {} + a = a := by
  simp only [add_def, Nat.zero_add]

theorem TaskReport.ofCalls_append (xs ys : List StageCall) : ofCalls (xs ++ ys) = ofCalls xs + ofCalls ys := by
  simp only [ofCalls, add_def, List.filterMap_append, List.length_append, List.countP_append]

namespace Round

/-- A round is counted by its calls. -/
theorem count_eq (transforms : Bool) (report : TaskReport) (x : Round) :
    x.count report = report + TaskReport.ofCalls (x.calls transforms) := by
  rcases x with _ | e | ⟨p, _ | e | ⟨q, _ | _⟩⟩ <;> cases transforms <;> rfl

theorem foldl_count (transforms : Bool) (report : TaskReport) (rounds : List Round) :
    rounds.foldl count report = report + TaskReport.ofCalls (rounds.flatMap (calls transforms)) := by
  induction rounds generalizing report with
  | nil => rfl
  | cons x rounds ih =>
    rw [List.foldl_cons, ih, count_eq transforms, TaskReport.add_assoc, ← TaskReport.ofCalls_append,
      List.flatMap_cons]

/-- A payload that came is dropped, lost or loaded, and what else is lost are the faults of
the source. -/
theorem balance_calls (transforms : Bool) (x : Round) :
    (TaskReport.ofCalls (x.calls transforms)).dropped + (TaskReport.ofCalls (x.calls transforms)).failed +
        (TaskReport.ofCalls (x.calls transforms)).loaded =
      (TaskReport.ofCalls (x.calls transforms)).extracted +
        (x.calls transforms).countP StageCall.failsExtract := by
  rcases x with _ | e | ⟨p, _ | e | ⟨q, _ | _⟩⟩ <;> cases transforms <;> rfl

theorem balance (transforms : Bool) (rounds : List Round) :
    (TaskReport.ofCalls (rounds.flatMap (calls transforms))).dropped +
        (TaskReport.ofCalls (rounds.flatMap (calls transforms))).failed +
        (TaskReport.ofCalls (rounds.flatMap (calls transforms))).loaded =
      (TaskReport.ofCalls (rounds.flatMap (calls transforms))).extracted +
        (rounds.flatMap (calls transforms)).countP StageCall.failsExtract := by
  induction rounds with
  | nil => rfl
  | cons x rounds ih =>
    have hx := x.balance_calls transforms
    simp only [List.flatMap_cons, TaskReport.ofCalls_append, TaskReport.add_def, List.countP_append]
    omega

theorem closes_calls (transforms : Bool) (x : Round) : ∀ c ∈ x.calls transforms, c.closes = false := by
  rcases x with _ | e | ⟨p, _ | e | ⟨q, _ | _⟩⟩ <;> cases transforms <;>
    simp [calls, Fate.calls, StageCall.closes]

end Round

/-! ## One round -/

variable {σ : Type}

/-- What a step comes to once the source gave a payload, by the calls made from then on. -/
def TaskStep.OfFate (transforms : Bool) (p : Payload) (report : TaskReport) (calls : List StageCall) :
    TaskStep → Prop
  | goesOn report' => ∃ fate : Fate, fate.Possible transforms p ∧ calls = fate.calls transforms p ∧
      report' = fate.count report
  | ends => False
  | fails _ => ∀ c ∈ calls, c.closes = false

/-- What a step comes to, by the calls it makes. -/
def TaskStep.OfRound (transforms : Bool) (report : TaskReport) (calls : List StageCall) : TaskStep → Prop
  | goesOn report' => ∃ x : Round, x.Possible transforms ∧ calls = x.calls transforms ∧
      report' = x.count report
  | ends => calls = [.extract .finished]
  | fails _ => ∀ c ∈ calls, c.closes = false

namespace Running

/-- Whether payloads are transformed. -/
def transforms (r : Running σ) : Bool := r.transform.isSome

/-- A payload is handed to the sink once, after whatever calls transformed it. -/
theorem loadStep_watched (r : Running σ) (report : TaskReport) (p q : Payload) (s : σ)
    (calls : List StageCall) (hq : r.transforms = false → q = p) : ∃ new,
      r.watched.loadStep report q
          (s, calls ++ if r.transforms then [.transform p (.ok (some q))] else []) =
        ((r.loadStep report q s).1, (r.loadStep report q s).2, calls ++ new) ∧
      (r.loadStep report q s).1.OfFate r.transforms p report new := by
  refine ⟨(if r.transforms then [.transform p (.ok (some q))] else []) ++
    [.load q (r.load.load q s).1], ?_⟩
  simp only [loadStep, watched, Load.watched, watch, List.append_assoc]
  rcases r.load.load q s with ⟨e | _, s'⟩
  · cases he : e.isRecordLevel with
    | true =>
      simp only [he, if_true, true_and]
      refine ⟨.handedOn q (.error e), ⟨hq, ?_⟩, rfl, rfl⟩
      rintro _ ⟨⟩
      exact he
    | false =>
      simp only [he, Bool.false_eq_true, if_false, TaskStep.OfFate, true_and]
      split <;> simp [StageCall.closes]
  · exact ⟨rfl, .handedOn q (.ok ()), ⟨hq, by simp⟩, rfl, rfl⟩

theorem transformStep_watched (r : Running σ) (report : TaskReport) (p : Payload) (s : σ)
    (calls : List StageCall) : ∃ new,
      r.watched.transformStep report p (s, calls) =
        ((r.transformStep report p s).1, (r.transformStep report p s).2, calls ++ new) ∧
      (r.transformStep report p s).1.OfFate r.transforms p report new := by
  cases ht : r.transform with
  | none =>
    have none : r.transforms = false := by simp [transforms, ht]
    simpa [transformStep, watched, ht, none] using r.loadStep_watched report p p s calls fun _ => rfl
  | some f =>
    have some : r.transforms = true := by simp [transforms, ht]
    simp only [transformStep, watched, ht, Option.map_some, Transform.watched, watch]
    rcases hf : f p s with ⟨e | _ | q, s'⟩
    · refine ⟨[.transform p (.error e)], ?_⟩
      cases he : r.config.failOnModelError && e.isModelError with
      | true => simp only [he, if_true, true_and, TaskStep.OfFate]; simp [StageCall.closes]
      | false =>
        simp only [he, Bool.false_eq_true, if_false, true_and]
        exact ⟨.spoiled e, some, rfl, rfl⟩
    · exact ⟨_, rfl, .dropped, some, rfl, rfl⟩
    · simpa [some, watched, ht, Transform.watched] using
        r.loadStep_watched report p q s' calls fun h => by rw [some] at h; cases h

/-- One step of a watched run is the step of the run, and its calls are those of a round. -/
theorem step_watched (r : Running σ) (report : TaskReport) (s : σ) (calls : List StageCall) : ∃ new,
    r.watched.step report (s, calls) =
      ((r.step report s).1, (r.step report s).2, calls ++ new) ∧
    (r.step report s).1.OfRound r.transforms report new := by
  have noted (x : Extracted) (s' : σ) (h : r.extract s = (x, s')) : r.watched.extract (s, calls) =
      (x, s', calls ++ [.extract x]) := by
    simp only [watched, Extract.watched, watch, h]
  rcases h : r.extract s with ⟨p | _ | e | _, s'⟩ <;> simp only [step, h, noted _ s' h]
  · obtain ⟨new, hnew, hfate⟩ := r.transformStep_watched
      { report with extracted := report.extracted + 1 } p s' (calls ++ [.extract (.payload p)])
    refine ⟨.extract (.payload p) :: new, by simpa using hnew, ?_⟩
    revert hfate
    cases (r.transformStep { report with extracted := report.extracted + 1 } p s').1 with
    | goesOn report' =>
      rintro ⟨fate, hpossible, rfl, rfl⟩
      exact ⟨.taken p fate, hpossible, rfl, rfl⟩
    | ends => exact False.elim
    | fails e => exact fun h => List.forall_mem_cons.2 ⟨rfl, h⟩
  · exact ⟨_, rfl, rfl⟩
  · refine ⟨[.extract (.failed e)], ?_⟩
    have same : r.watched.dropsExtract e = r.dropsExtract e := rfl
    cases he : r.dropsExtract e with
    | true =>
      simp only [same, he, if_true, true_and]
      rw [dropsExtract, Bool.and_eq_true] at he
      exact ⟨.skipped e, he.1, rfl, rfl⟩
    | false =>
      simp only [same, he, Bool.false_eq_true, if_false, true_and, TaskStep.OfRound]
      simp [StageCall.closes]
  · exact ⟨_, rfl, .waited, trivial, rfl, rfl⟩

/-! ## All rounds -/

theorem closes_of_step {transforms : Bool} {report : TaskReport} {calls : List StageCall} {step : TaskStep}
    (h : step.OfRound transforms report calls) : ∀ c ∈ calls, c.closes = false := by
  cases step with
  | goesOn report' =>
    obtain ⟨x, -, rfl, -⟩ := h
    exact x.closes_calls transforms
  | ends =>
    rw [show calls = [.extract .finished] from h]
    simp [StageCall.closes]
  | fails e => exact h

/-- A watched run is the run. It closes nothing, and if its source was exhausted, its calls
are those of its rounds and its report is their count. -/
theorem pump_watched (r : Running σ) (fuel : Nat) (report : TaskReport) (s : σ) (calls : List StageCall) :
    ∃ new, r.watched.pump fuel report (s, calls) =
        ((r.pump fuel report s).1, (r.pump fuel report s).2, calls ++ new) ∧
      (∀ c ∈ new, c.closes = false) ∧
      ∀ report', (r.pump fuel report s).1 = some (.ok report') → ∃ rounds : List Round,
        (∀ x ∈ rounds, x.Possible r.transforms) ∧
        new = rounds.flatMap (Round.calls r.transforms) ++ [.extract .finished] ∧
        report' = rounds.foldl Round.count report := by
  induction fuel generalizing report s calls with
  | zero => exact ⟨[], by simp [pump]⟩
  | succ fuel ih =>
    obtain ⟨first, hstep, hround⟩ := r.step_watched report s calls
    have hopen := closes_of_step hround
    rw [pump, pump, hstep]
    cases hs : r.step report s with | mk result s₁ =>
    rw [hs] at hround
    cases result with
    | goesOn report₁ =>
      obtain ⟨x, hx, rfl, rfl⟩ := hround
      obtain ⟨rest, hpump, hrest, hrounds⟩ := ih (x.count report) s₁ (calls ++ x.calls r.transforms)
      refine ⟨x.calls r.transforms ++ rest, by simpa using hpump, ?_, fun report' h => ?_⟩
      · exact List.forall_mem_append.2 ⟨hopen, hrest⟩
      · obtain ⟨rounds, hpossible, rfl, rfl⟩ := hrounds report' h
        exact ⟨x :: rounds, List.forall_mem_cons.2 ⟨hx, hpossible⟩, by simp, rfl⟩
    | ends =>
      refine ⟨first, rfl, hopen, fun report' h => ⟨[], by simp, hround, ?_⟩⟩
      simpa using h.symm
    | fails e => exact ⟨first, rfl, hopen, by simp⟩

end Running

end MetaGraph

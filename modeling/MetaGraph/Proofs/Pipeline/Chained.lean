/-
What the members of a chain are shown, and what becomes of chains in a job.
Each member notes the payloads it is shown, wherever in the groups it stands;
a payload goes from member to member in their order, and no further than the
first that drops it or fails. A job with one transformer uses it as it is,
which is no other than a chain of one.
-/
import MetaGraph.Proofs.Pipeline.ConfigFault
import MetaGraph.Proofs.Pipeline.Grouping
import Mathlib.Data.List.Chain

namespace MetaGraph

variable {σ ν : Type}

/-! ## Members that note what they are shown -/

/-- A payload that a member was shown, and what it made of it. -/
structure Showing where
  /-- The place of the member in its chain. -/
  place : Nat
  given : Payload
  answer : Except TransformError (Option Payload)

/-- A state, and what members were shown. -/
abbrev Noted (σ : Type) := σ × List Showing

def Noted.state : Part (Noted σ) σ where
  get := Prod.fst
  set s noted := (s, noted.2)

def Transform.noting (place : Nat) (f : Transform σ) : Transform (Noted σ) := fun p (s, noted) =>
  ((f p s).1, (f p s).2, noted ++ [⟨place, p, (f p s).1⟩])

namespace Member

def noting (place : Nat) (m : Member σ) : Member (Noted σ) where
  transformer := {
    scope := m.transformer.scope
    idle := m.transformer.idle.noting place
    setUp := Noted.state.liftSetUp (Transform.noting place) m.transformer.setUp }
  working := m.working.noting place

theorem init_noting (m : Member σ) (place : Nat) (scope : Scope) (ctx : RunContext) (s : σ)
    (noted : List Showing) :
    (m.noting place).init scope ctx (s, noted) =
      ((m.init scope ctx s).1, (m.init scope ctx s).2.1.noting place, (m.init scope ctx s).2.2, noted) := by
  have lifted : (m.noting place).transformer.setUp (scope.withScope m.transformer.scope) ctx (s, noted) =
    ((m.transformer.setUp (scope.withScope m.transformer.scope) ctx s).1.map (Transform.noting place),
      (m.transformer.setUp (scope.withScope m.transformer.scope) ctx s).2, noted) := rfl
  rw [init, show (m.noting place).transformer.scope = m.transformer.scope from rfl, lifted, init]
  rcases m.transformer.setUp (scope.withScope m.transformer.scope) ctx s with ⟨_ | _, s'⟩ <;> rfl

theorem length_initAll (ms : List (Member σ)) (scope : Scope) (ctx : RunContext) (s : σ) :
    (initAll ms scope ctx s).2.1.length = ms.length := by
  induction ms generalizing s with
  | nil => rfl
  | cons m ms ih =>
    rw [initAll]
    rcases m.init scope ctx s with ⟨_ | _, m', s'⟩
    · rfl
    · exact congrArg (· + 1) (ih s')

end Member

namespace Grouping

/-- All members note what they are shown. They are numbered in their order, from `place` on. -/
def noting : Nat → Grouping σ → Grouping (Noted σ)
  | _, done => done
  | place, member m rest => member (m.noting place) (rest.noting (place + 1))
  | place, chain inner rest => chain (inner.noting place) (rest.noting (place + inner.members.length))

theorem members_noting (g : Grouping σ) (place : Nat) :
    (g.noting place).members = (g.members.zipIdx place).map fun (m, i) => m.noting i := by
  induction g generalizing place with
  | done => rfl
  | member m rest ih => simp only [noting, members, List.zipIdx_cons, List.map_cons, ih]
  | chain inner rest ihInner ih =>
    simp only [noting, members, List.zipIdx_append, List.map_append, ihInner, ih]

theorem length_init (g : Grouping σ) (scope : Scope) (ctx : RunContext) (s : σ) :
    (g.init scope ctx s).2.1.members.length = g.members.length := by
  have all := Member.length_initAll g.members scope ctx s
  rwa [initAll_members] at all

theorem init_noting (g : Grouping σ) (place : Nat) (scope : Scope) (ctx : RunContext) (s : σ)
    (noted : List Showing) :
    (g.noting place).init scope ctx (s, noted) =
      ((g.init scope ctx s).1, (g.init scope ctx s).2.1.noting place, (g.init scope ctx s).2.2, noted) := by
  induction g generalizing place scope s with
  | done => rfl
  | member m rest ih =>
    rw [noting, init, Member.init_noting, init]
    rcases m.init scope ctx s with ⟨_ | _, m', s'⟩
    · rfl
    · simp only [ih, noting]
  | chain inner rest ihInner ih =>
    have kept := inner.length_init scope ctx s
    rw [noting, init, init_withScope, ihInner, init, init_withScope]
    rcases hi : inner.init scope ctx s with ⟨_ | _, inner', s'⟩ <;> rw [hi] at kept
    · simp only [noting, kept]
    · simp only [ih, noting, kept]

end Grouping

/-! ## The way of a payload -/

/-- The way of a payload through a number of members. The first of them has the given place. -/
structure Passage (place members : Nat) (p : Payload) (answer : Except TransformError (Option Payload))
    (shown : List Showing) : Prop where
  /-- Each member comes after the one before it, none being left out. -/
  inOrder : shown.map Showing.place = List.range' place shown.length
  first : ∀ c ∈ shown.head?, c.given = p
  /-- A member is shown what the one before it handed on. -/
  handed : shown.IsChain fun c d => c.answer = .ok (some d.given)
  /-- A member that hands nothing on has the last word, and none behind it is shown anything. -/
  stops : ∀ c ∈ shown, (∀ q, c.answer ≠ .ok (some q)) → c.answer = answer ∧ ∀ d ∈ shown, d.place ≤ c.place
  /-- If all hand on what they make of it, then it comes to all. -/
  passes : (∀ c ∈ shown, ∃ q, c.answer = .ok (some q)) → shown.length = members

namespace Passage

variable {place members : Nat} {p q : Payload} {answer : Except TransformError (Option Payload)}
  {shown : List Showing}

theorem stop (h : ∀ q, answer ≠ .ok (some q)) : Passage place (members + 1) p answer [⟨place, p, answer⟩] where
  inOrder := rfl
  first := by simp
  handed := .singleton _
  stops := by simp
  passes := fun all => by
    obtain ⟨q, hq⟩ := all _ List.mem_cons_self
    exact absurd hq (h q)

theorem step (h : Passage (place + 1) members q answer shown) :
    Passage place (members + 1) p answer (⟨place, p, .ok (some q)⟩ :: shown) where
  inOrder := by rw [List.map_cons, h.inOrder]; rfl
  first := by simp
  handed := by
    cases shown with
    | nil => exact .singleton _
    | cons c shown => exact .cons_cons (by rw [h.first c rfl]) h.handed
  stops := by
    intro c hc none
    rcases List.mem_cons.1 hc with rfl | hc
    · exact absurd rfl (none q)
    · obtain ⟨last, behind⟩ := h.stops c hc none
      refine ⟨last, List.forall_mem_cons.2 ⟨?_, behind⟩⟩
      have later : c.place ∈ List.range' (place + 1) shown.length := h.inOrder ▸ List.mem_map_of_mem hc
      exact Nat.le_of_succ_le (List.mem_range'_1.1 later).1
  passes := fun all => congrArg (· + 1) (h.passes fun c hc => all c (List.mem_cons_of_mem _ hc))

end Passage

theorem sequence_noting (fs : List (Transform σ)) (place : Nat) (p : Payload) (s : σ) (noted : List Showing) :
    ∃ shown, Transformer.sequence ((fs.zipIdx place).map fun (f, i) => f.noting i) p (s, noted) =
        ((Transformer.sequence fs p s).1, (Transformer.sequence fs p s).2, noted ++ shown) ∧
      Passage place fs.length p (Transformer.sequence fs p s).1 shown := by
  induction fs generalizing place p s noted with
  | nil => exact ⟨[], by rw [List.append_nil]; rfl, ⟨rfl, by simp, .nil, by simp, fun _ => rfl⟩⟩
  | cons f fs ih =>
    simp only [List.zipIdx_cons, List.map_cons, Transformer.sequence, Transform.noting]
    rcases f p s with ⟨e | _ | q, s'⟩
    · exact ⟨[⟨place, p, .error e⟩], rfl, .stop (by simp)⟩
    · exact ⟨[⟨place, p, .ok none⟩], rfl, .stop (by simp)⟩
    · obtain ⟨shown, ran, passage⟩ := ih (place + 1) q s' (noted ++ [⟨place, p, .ok (some q)⟩])
      rw [← List.append_cons] at ran
      exact ⟨_, ran, passage.step⟩

namespace Grouping

/-- What members are shown as requests are served one after the other. -/
inductive Shown (members : Nat) : List ChainRequest → List ChainAnswer → List Showing → Prop
  | nil : Shown members [] [] []
  | init {requests : List ChainRequest} {answers : List ChainAnswer} {noted : List Showing} {scope : Scope}
      {ctx : RunContext} {result : Except ConfigError Unit} (rest : Shown members requests answers noted) :
      Shown members (.init scope ctx :: requests) (.init result :: answers) noted
  | transform {requests : List ChainRequest} {answers : List ChainAnswer} {shown noted : List Showing}
      {p : Payload} {answer : Except TransformError (Option Payload)} (passage : Passage 0 members p answer shown)
      (rest : Shown members requests answers noted) :
      Shown members (.transform p :: requests) (.transform answer :: answers) (shown ++ noted)

theorem transform_noting (g : Grouping σ) (place : Nat) (p : Payload) (s : σ) (noted : List Showing) :
    ∃ shown, (g.noting place).transform p (s, noted) =
        ((g.transform p s).1, (g.transform p s).2, noted ++ shown) ∧
      Passage place g.members.length p (g.transform p s).1 shown := by
  have all : (g.noting place).members.map Member.working =
      ((g.members.map Member.working).zipIdx place).map fun (f, i) => f.noting i := by
    rw [members_noting, List.zipIdx_map, List.map_map, List.map_map]
    rfl
  have count : g.members.length = (g.members.map Member.working).length := (List.length_map _).symm
  rw [transform, transform, sequence_transforms, sequence_transforms, all, count]
  exact sequence_noting _ place p s noted

/-- Members that note what they are shown serve as they do otherwise. -/
theorem serveAll_noting (g : Grouping σ) (requests : List ChainRequest) (s : σ) (before : List Showing) :
    ∃ noted, (g.noting 0).serveAll requests (s, before) =
        ((g.serveAll requests s).1, (g.serveAll requests s).2.1.noting 0, (g.serveAll requests s).2.2,
          before ++ noted) ∧
      Shown g.members.length requests (g.serveAll requests s).1 noted := by
  induction requests generalizing g s before with
  | nil => exact ⟨[], by rw [List.append_nil]; rfl, .nil⟩
  | cons request requests ih =>
    cases request with
    | init scope ctx =>
      obtain ⟨noted, served, shown⟩ := ih (g.init scope ctx s).2.1 (g.init scope ctx s).2.2 before
      rw [length_init] at shown
      refine ⟨noted, ?_, shown.init⟩
      simp only [serveAll, serve, init_noting, served]
    | transform p =>
      obtain ⟨shown, made, passage⟩ := g.transform_noting 0 p s before
      obtain ⟨noted, served, rest⟩ := ih g (g.transform p s).2 (before ++ shown)
      refine ⟨shown ++ noted, ?_, .transform passage rest⟩
      rw [← List.append_assoc]
      simp only [serveAll, serve, made, served]

end Grouping

/-! ## One transformer in a job -/

/-- The task with a chain of one in place of its transformer. -/
def Task.inChain (t : Task σ) : Task σ :=
  { t with transformer := t.transformer.map fun transformer => Transformer.chain [transformer] }

def Job.inChain (j : Job σ) : Job σ := { j with task := j.task.inChain }

theorem Transformer.setUp_chain_single (t : Transformer σ) (config : JobConfig) (ctx : RunContext) (s : σ) :
    (chain [t]).setUp (config.scope (chain [t]).scope) ctx s = t.setUp (config.scope t.scope) ctx s := by
  have own : (config.scope (chain [t]).scope).withScope t.scope = config.scope t.scope := rfl
  rw [← own]
  simp only [chain, setUpAll]
  rcases t.setUp ((config.scope "transformer.chained").withScope t.scope) ctx s with ⟨e | f, s'⟩
  · rfl
  · simp only [Except.map, sequence_single]

theorem Task.setUpStages_inChain (t : Task σ) (config : JobConfig) (ctx : RunContext) (s : σ) :
    t.inChain.setUpStages config ctx s = t.setUpStages config ctx s := by
  obtain ⟨extractor, _ | transformer, loader⟩ := t
  · rfl
  · simp only [inChain, setUpStages, Option.map_some, Transformer.setUp_chain_single]

theorem Job.launch_inChain (j : Job σ) (fuel : Nat) (ctx : RunContext) (s : σ) :
    j.inChain.launch fuel ctx s = j.launch fuel ctx s := by
  have same : j.inChain.task.init j.config ctx .uninitialized s = j.task.init j.config ctx .uninitialized s := by
    simp only [Task.init, inChain, Task.setUpStages_inChain]
  simp only [launch]
  rw [show j.inChain.config = j.config from rfl, same]
  rfl

/-- A job uses a transformer as it is, and might as well use the chain of it. -/
structure Job.UsesAlone (j : Job σ) (t : Transformer σ) : Prop where
  transformer : j.task.transformer = some t
  idle : t.idle = (Transformer.chain [t]).idle
  setUp : ∀ ctx s, t.setUp (j.config.scope t.scope) ctx s =
    (Transformer.chain [t]).setUp (j.config.scope (Transformer.chain [t]).scope) ctx s
  launch : ∀ fuel ctx s, j.launch fuel ctx s = j.inChain.launch fuel ctx s

theorem Assembly.job_single {net : Network ν} {config : JobConfig} {spec : JobSpec} {name : String}
    {j : Job (RunState ν)} (hspec : config.job = .ok spec) (hname : spec.transformers = [name])
    (hj : job net config = .ok j) : ∃ t, transformer name = .ok t ∧ j.UsesAlone t := by
  obtain ⟨_, same, hj⟩ := except_bind_ok.1 hj
  cases hspec.symm.trans same
  obtain ⟨source, -, hj⟩ := except_bind_ok.1 hj
  obtain ⟨sink, -, hj⟩ := except_bind_ok.1 hj
  obtain ⟨members, hm, hj⟩ := except_bind_ok.1 hj
  obtain ⟨target, -, hj⟩ := except_bind_ok.1 hj
  rw [hname, List.mapM_cons] at hm
  obtain ⟨t, ht, hm⟩ := except_bind_ok.1 hm
  cases hm
  cases hj
  exact ⟨t, ht, rfl, (Transformer.sequence_single _).symm,
    fun ctx s => (t.setUp_chain_single config ctx s).symm, fun fuel ctx s => (Job.launch_inChain _ fuel ctx s).symm⟩

/-! ## Chains of chains -/

namespace Grouping

/-- A chain does what the chain of all its members does: as it is built, and for every sequence
of requests, which show its members the same. A job with one transformer does what it does
with a chain of it. -/
theorem as_flat (g : Grouping σ) (net : Network ν) :
    Transformer.chain g.transformers = Transformer.chain (g.members.map Member.transformer) ∧
    ((∀ m ∈ g.members, m.working = m.transformer.idle) → g.transform = (Transformer.chain g.transformers).idle) ∧
    (∀ scope ctx s, (Transformer.chain g.transformers).setUp scope ctx s =
      ((g.init scope ctx s).1.map fun _ => (g.init scope ctx s).2.1.transform, (g.init scope ctx s).2.2)) ∧
    (∀ requests s,
      SameUse (g.serveAll requests s) ((flat g.members).serveAll requests s) ∧
      ∃ noted, Shown g.members.length requests (g.serveAll requests s).1 noted ∧
        (g.noting 0).serveAll requests (s, []) =
          ((g.serveAll requests s).1, (g.serveAll requests s).2.1.noting 0, (g.serveAll requests s).2.2, noted) ∧
        SameUse ((g.noting 0).serveAll requests (s, [])) (((flat g.members).noting 0).serveAll requests (s, []))) ∧
    ∀ config spec name j, config.job = .ok spec → spec.transformers = [name] →
      Assembly.job net config = .ok j → ∃ t, Assembly.transformer name = .ok t ∧ j.UsesAlone t := by
  refine ⟨g.chain_transformers, g.transform_of_fresh, g.setUp_chain, fun requests s => ?_,
    fun config spec name j => Assembly.job_single⟩
  have same : g.members = (flat g.members).members := (members_flat _).symm
  have sameNoting : (g.noting 0).members = ((flat g.members).noting 0).members := by
    rw [members_noting, members_noting, ← same]
  obtain ⟨noted, served, shown⟩ := g.serveAll_noting requests s []
  exact ⟨serveAll_congr same requests s, noted, shown, served, serveAll_congr sameNoting requests (s, [])⟩

/-- Lets every other payload pass, and counts them all. -/
def everyOther : Transformer Nat where
  scope := "transformer.every_other"
  idle p n := (.ok (some p), n)
  setUp _ _ n := (.ok fun p n => (.ok (if n % 2 = 0 then some p else none), n + 1), n)

/-- Cannot be set up, and fails after three payloads. -/
def tiring : Transformer Nat where
  scope := "transformer.tiring"
  idle p n := if n < 3 then (.ok (some p), n) else (.error (.field "f" "tired"), n + 10)
  setUp scope _ n := (.error (.missingField scope.name), n)

/-- A chain of an empty chain and of one that holds another. -/
def nested : Grouping Nat :=
  chain done (chain (member ⟨everyOther, everyOther.idle⟩ (chain (member ⟨tiring, tiring.idle⟩ done) done))
    (member ⟨everyOther, everyOther.idle⟩ done))

/-- The settings of a job with one transformer. -/
def loneConfig : JobConfig where
  tree := .ok [("job", .table [("extractor", .text "csv"), ("transformers", .list [.text "dict_to_model"])])]

def loneJob : Job (RunState Unit) where
  identifier := "databuilder-job"
  config := loneConfig
  task := { extractor := csvExtractor, transformer := some dictToModel, loader := bulkLoader }
  publisher := noopPublisher

def nestedRequests : List ChainRequest :=
  .init ⟨loneConfig, "transformer.chained"⟩ { runId := "1" } :: List.replicate 4 (.transform (.record []))

/-- The setting up fails on the second member, and then a payload passes, one is dropped by the
first member, one fails on the second, and one is dropped again. -/
theorem as_flat_nested :
    nested.transform = (Transformer.chain nested.transformers).idle ∧
    Assembly.job Assembly.offline loneConfig = .ok loneJob ∧ loneJob.UsesAlone dictToModel ∧
    (nested.serveAll nestedRequests 0).1 =
      [.init (.error (.missingField "transformer.tiring")), .transform (.ok (some (.record []))),
        .transform (.ok none), .transform (.error (.field "f" "tired")), .transform (.ok none)] ∧
    SameUse (nested.serveAll nestedRequests 0) ((flat nested.members).serveAll nestedRequests 0) := by
  obtain ⟨-, fresh, -, use, single⟩ := as_flat nested Assembly.offline
  have spec : loneConfig.job = .ok ⟨_, _, ["dict_to_model"], _, _⟩ := except_eq_ok_of_toOption rfl
  have assembled : Assembly.job Assembly.offline loneConfig = .ok loneJob := by
    rw [Assembly.job, spec]
    rfl
  obtain ⟨t, ht, alone⟩ := single _ _ _ _ spec rfl assembled
  cases ht
  exact ⟨fresh (by simp [nested, members]), assembled, alone, rfl, (use nestedRequests 0).1⟩

end Grouping

end MetaGraph

/-
Chains within chains. Transformers in a row may stand in one chain, or be
grouped into chains within it, to any depth, empty ones and single ones among
them. What a chain does depends on its members and their order alone: chains
that are grouped otherwise are set up with the same result, answer every
payload alike and leave each member as it was left, also after a member could
not be set up, dropped a payload or failed. What a member does not hand on is
shown to no member behind it.
-/
import MetaGraph.Pipeline.Stage

namespace MetaGraph

variable {σ : Type}

/-! ## One transformation after another -/

/-- Hands what the first transformation gives to the second. -/
def Transform.andThen (f g : Transform σ) : Transform σ := fun p s =>
  match f p s with
  | (.ok (some q), s) => g q s
  | (.ok none, s) => (.ok none, s)
  | (.error e, s) => (.error e, s)

namespace Transformer

theorem sequence_cons (f : Transform σ) (fs : List (Transform σ)) :
    sequence (f :: fs) = f.andThen (sequence fs) := rfl

theorem andThen_assoc (f g h : Transform σ) : (f.andThen g).andThen h = f.andThen (g.andThen h) := by
  funext p s
  simp only [Transform.andThen]
  rcases f p s with ⟨_ | _ | q, s'⟩ <;> rfl

theorem sequence_append (fs gs : List (Transform σ)) :
    sequence (fs ++ gs) = (sequence fs).andThen (sequence gs) := by
  induction fs with
  | nil => rfl
  | cons f fs ih => rw [List.cons_append, sequence_cons, sequence_cons, ih, andThen_assoc]

theorem sequence_single (f : Transform σ) : sequence [f] = f := by
  funext p s
  rw [sequence]
  rcases f p s with ⟨_ | _ | q, s'⟩ <;> rfl

end Transformer

/-! ## Members and their groups -/

/-- A transformer in use: how it transforms now. -/
structure Member (σ : Type) where
  transformer : Transformer σ
  /-- What it does while it is not set up, and what it was last set up to do after that. -/
  working : Transform σ

/-- What stands in a chain, one after the other: members, and chains of their own. -/
inductive Grouping (σ : Type) where
  | done
  | member (m : Member σ) (rest : Grouping σ)
  | chain (inner rest : Grouping σ)

/-- Sets a member up from its own part of the configuration. One that cannot be set up goes on
as it did. -/
def Member.init (m : Member σ) (scope : Scope) (ctx : RunContext) (s : σ) :
    Except ConfigError Unit × Member σ × σ :=
  match m.transformer.setUp (scope.withScope m.transformer.scope) ctx s with
  | (.error e, s) => (.error e, m, s)
  | (.ok f, s) => (.ok (), { m with working := f }, s)

/-- Sets members up in their order, up to the first that cannot be set up. -/
def Member.initAll : List (Member σ) → Scope → RunContext → σ → Except ConfigError Unit × List (Member σ) × σ
  | [], _, _, s => (.ok (), [], s)
  | m :: ms, scope, ctx, s =>
    match m.init scope ctx s with
    | (.error e, m, s) => (.error e, m :: ms, s)
    | (.ok (), m, s) =>
      let (result, ms, s) := initAll ms scope ctx s
      (result, m :: ms, s)

theorem Member.initAll_append (ms ns : List (Member σ)) (scope : Scope) (ctx : RunContext) (s : σ) :
    initAll (ms ++ ns) scope ctx s =
      match initAll ms scope ctx s with
      | (.error e, ms, s) => (.error e, ms ++ ns, s)
      | (.ok (), ms, s) =>
        let (result, ns, s) := initAll ns scope ctx s
        (result, ms ++ ns, s) := by
  induction ms generalizing s with
  | nil => rfl
  | cons m ms ih =>
    simp only [List.cons_append, initAll, ih]
    rcases hm : m.init scope ctx s with ⟨_ | _, m', s₁⟩
    · rfl
    · rcases hms : initAll ms scope ctx s₁ with ⟨_ | _, ms', s₂⟩ <;> simp only [hms, List.cons_append]

namespace Grouping

/-- All members in their order. -/
def members : Grouping σ → List (Member σ)
  | done => []
  | member m rest => m :: rest.members
  | chain inner rest => inner.members ++ rest.members

/-- Members that are not grouped any further. -/
def flat : List (Member σ) → Grouping σ
  | [] => done
  | m :: ms => member m (flat ms)

@[simp] theorem members_flat (ms : List (Member σ)) : (flat ms).members = ms := by
  induction ms with
  | nil => rfl
  | cons m ms ih => rw [flat, members, ih]

/-- The transformers that stand in the chain, chains being one each. -/
def transformers : Grouping σ → List (Transformer σ)
  | done => []
  | member m rest => m.transformer :: rest.transformers
  | chain inner rest => Transformer.chain inner.transformers :: rest.transformers

@[simp] theorem transformers_flat (ms : List (Member σ)) : (flat ms).transformers = ms.map Member.transformer := by
  induction ms with
  | nil => rfl
  | cons m ms ih => rw [flat, transformers, ih, List.map_cons]

/-- What stands in the chain does one after the other, where `f` tells what a member does. -/
def transforms (f : Member σ → Transform σ) : Grouping σ → List (Transform σ)
  | done => []
  | member m rest => f m :: rest.transforms f
  | chain inner rest => Transformer.sequence (inner.transforms f) :: rest.transforms f

/-- What the chain does now. -/
def transform (g : Grouping σ) : Transform σ := Transformer.sequence (g.transforms Member.working)

/-- Sets the members up in their order, up to the first that cannot be set up. -/
def init : Grouping σ → Scope → RunContext → σ → Except ConfigError Unit × Grouping σ × σ
  | done, _, _, s => (.ok (), done, s)
  | member m rest, scope, ctx, s =>
    match m.init scope ctx s with
    | (.error e, m, s) => (.error e, member m rest, s)
    | (.ok (), m, s) =>
      let (result, rest, s) := rest.init scope ctx s
      (result, member m rest, s)
  | chain inner rest, scope, ctx, s =>
    match inner.init (scope.withScope (Transformer.chain inner.transformers).scope) ctx s with
    | (.error e, inner, s) => (.error e, chain inner rest, s)
    | (.ok (), inner, s) =>
      let (result, rest, s) := rest.init scope ctx s
      (result, chain inner rest, s)

/-! ## Groups do as their members do -/

theorem sequence_transforms (f : Member σ → Transform σ) (g : Grouping σ) :
    Transformer.sequence (g.transforms f) = Transformer.sequence (g.members.map f) := by
  induction g with
  | done => rfl
  | member m rest ih =>
    rw [transforms, members, List.map_cons, Transformer.sequence_cons, Transformer.sequence_cons, ih]
  | chain inner rest ihInner ih =>
    rw [transforms, members, List.map_append, Transformer.sequence_cons, Transformer.sequence_append,
      ihInner, ih]

/-- The name of a chain's scope does not reach its members. -/
theorem init_withScope (g : Grouping σ) (scope : Scope) (name : String) (ctx : RunContext) (s : σ) :
    g.init (scope.withScope name) ctx s = g.init scope ctx s := by
  induction g generalizing s with
  | done => rfl
  | member m rest ih =>
    have same : m.init (scope.withScope name) ctx s = m.init scope ctx s := rfl
    simp only [init, same, ih]
  | chain inner rest ihInner ih =>
    have same : (scope.withScope name).withScope (Transformer.chain inner.transformers).scope =
      scope.withScope (Transformer.chain inner.transformers).scope := rfl
    simp only [init, same, ih]

/-- Setting up the groups sets up their members in a row. -/
theorem initAll_members (g : Grouping σ) (scope : Scope) (ctx : RunContext) (s : σ) :
    Member.initAll g.members scope ctx s =
      ((g.init scope ctx s).1, (g.init scope ctx s).2.1.members, (g.init scope ctx s).2.2) := by
  induction g generalizing s with
  | done => rfl
  | member m rest ih =>
    simp only [members, Member.initAll, init, ih]
    rcases m.init scope ctx s with ⟨_ | _, m', s₁⟩ <;> rfl
  | chain inner rest ihInner ih =>
    rw [members, Member.initAll_append, ihInner, init, init_withScope]
    rcases inner.init scope ctx s with ⟨_ | _, inner', s₁⟩
    · rfl
    · simp only [ih, members]

/-! ## In use -/

/-- What is asked of a chain. -/
inductive ChainRequest where
  | init (scope : Scope) (ctx : RunContext)
  | transform (p : Payload)

inductive ChainAnswer where
  | init (result : Except ConfigError Unit)
  | transform (result : Except TransformError (Option Payload))

/-- Serves a request. -/
def serve (g : Grouping σ) : ChainRequest → σ → ChainAnswer × Grouping σ × σ
  | .init scope ctx, s =>
    let (result, g, s) := g.init scope ctx s
    (.init result, g, s)
  | .transform p, s =>
    let (result, s) := g.transform p s
    (.transform result, g, s)

/-- Serves requests one after the other. -/
def serveAll (g : Grouping σ) : List ChainRequest → σ → List ChainAnswer × Grouping σ × σ
  | [], s => ([], g, s)
  | request :: requests, s =>
    let (answer, g, s) := g.serve request s
    let (answers, g, s) := g.serveAll requests s
    (answer :: answers, g, s)

/-- The same answers, the same state, and the same members in the same state. -/
structure SameUse {α : Type} (x y : α × Grouping σ × σ) : Prop where
  answers : x.1 = y.1
  members : x.2.1.members = y.2.1.members
  state : x.2.2 = y.2.2

variable {g g' : Grouping σ}

theorem transform_congr (h : g.members = g'.members) : g.transform = g'.transform := by
  rw [transform, transform, sequence_transforms, sequence_transforms, h]

theorem init_congr (h : g.members = g'.members) (scope : Scope) (ctx : RunContext) (s : σ) :
    SameUse (g.init scope ctx s) (g'.init scope ctx s) := by
  have same := (g.initAll_members scope ctx s).symm.trans (h ▸ g'.initAll_members scope ctx s)
  exact ⟨congrArg (·.1) same, congrArg (·.2.1) same, congrArg (·.2.2) same⟩

theorem serve_congr (h : g.members = g'.members) (request : ChainRequest) (s : σ) :
    SameUse (g.serve request s) (g'.serve request s) := by
  cases request with
  | init scope ctx =>
    have same := init_congr h scope ctx s
    exact ⟨congrArg ChainAnswer.init same.answers, same.members, same.state⟩
  | transform p =>
    have same : g.transform p s = g'.transform p s := by rw [transform_congr h]
    refine ⟨?_, h, ?_⟩ <;> simp only [serve, same]

/-- Chains of the same members serve all requests alike. -/
theorem serveAll_congr (h : g.members = g'.members) (requests : List ChainRequest) (s : σ) :
    SameUse (g.serveAll requests s) (g'.serveAll requests s) := by
  induction requests generalizing g g' s with
  | nil => exact ⟨rfl, h, rfl⟩
  | cons request requests ih =>
    obtain ⟨answer, members, state⟩ := serve_congr h request s
    have rest := ih members (g'.serve request s).2.2
    simp only [serveAll, answer, state]
    exact ⟨congrArg ((g'.serve request s).1 :: ·) rest.answers, rest.members, rest.state⟩

/-! ## Chains as they are built -/

theorem map_idle_transformers (g : Grouping σ) :
    g.transformers.map Transformer.idle = g.transforms fun m => m.transformer.idle := by
  induction g with
  | done => rfl
  | member m rest ih => rw [transformers, transforms, List.map_cons, ih]
  | chain inner rest ihInner ih =>
    rw [transformers, transforms, List.map_cons, ih, ← ihInner]
    rfl

/-- The chain that is built of the groups does, while none of its members is set up, what the
groups do then. -/
theorem transform_of_fresh (fresh : ∀ m ∈ g.members, m.working = m.transformer.idle) :
    g.transform = (Transformer.chain g.transformers).idle := by
  rw [transform, sequence_transforms, List.map_congr_left fresh, ← sequence_transforms, ← map_idle_transformers]
  rfl

theorem setUpAll_transformers (g : Grouping σ) (scope : Scope) (ctx : RunContext) (s : σ) :
    Transformer.setUpAll scope ctx g.transformers s =
      ((g.init scope ctx s).1.map fun _ => (g.init scope ctx s).2.1.transforms Member.working,
        (g.init scope ctx s).2.2) := by
  induction g generalizing scope s with
  | done => rfl
  | member m rest ih =>
    simp only [transformers, Transformer.setUpAll, init, Member.init]
    rcases m.transformer.setUp (scope.withScope m.transformer.scope) ctx s with ⟨e | f, s₁⟩
    · rfl
    · simp only [ih]
      rcases rest.init scope ctx s₁ with ⟨_ | _, rest', s₂⟩ <;> rfl
  | chain inner rest ihInner ih =>
    simp only [transformers, Transformer.setUpAll, init]
    simp only [Transformer.chain, ihInner]
    rcases inner.init (scope.withScope "transformer.chained") ctx s with ⟨_ | _, inner', s₁⟩
    · rfl
    · simp only [Except.map, ih]
      rcases rest.init scope ctx s₁ with ⟨_ | _, rest', s₂⟩ <;> rfl

/-- Setting it up gives what the groups do once they are set up. -/
theorem setUp_chain (g : Grouping σ) (scope : Scope) (ctx : RunContext) (s : σ) :
    (Transformer.chain g.transformers).setUp scope ctx s =
      ((g.init scope ctx s).1.map fun _ => (g.init scope ctx s).2.1.transform, (g.init scope ctx s).2.2) := by
  simp only [Transformer.chain, setUpAll_transformers]
  rcases g.init scope ctx s with ⟨_ | _, g', s'⟩ <;> rfl

/-- The chain of the groups is the chain of their members. -/
theorem chain_transformers (g : Grouping σ) :
    Transformer.chain g.transformers = Transformer.chain (g.members.map Member.transformer) := by
  have same : g.members = (flat g.members).members := (members_flat _).symm
  have idle : (Transformer.chain g.transformers).idle =
      (Transformer.chain (flat g.members).transformers).idle := by
    simp only [Transformer.chain, map_idle_transformers, sequence_transforms, members_flat]
  have setUp : (Transformer.chain g.transformers).setUp =
      (Transformer.chain (flat g.members).transformers).setUp := by
    funext scope ctx s
    obtain ⟨result, members, state⟩ := init_congr same scope ctx s
    rw [setUp_chain, setUp_chain, result, state, transform_congr members]
  rw [← transformers_flat]
  exact (Transformer.mk.injEq ..).mpr ⟨rfl, idle, setUp⟩

end Grouping

end MetaGraph

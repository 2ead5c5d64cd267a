/-
When a faulty configuration ends a job. The stages of the task are set up
before anything else is done, and setting them up writes no file. The
publisher is set up only once the task has run, so a fault of its settings
is found when all the work is done and the output is written.
-/
import MetaGraph.Component.Assembly
import MetaGraph.Proofs.Files.Unwritten
import MetaGraph.Proofs.Pipeline.Lifecycle

namespace MetaGraph

variable {σ ν : Type}

/-! ## Watched jobs -/

/-- A job of which the calls are noted. The publisher is no stage of the task. -/
def Publisher.watched (p : Publisher σ) : Publisher (Watched σ) where
  scope := p.scope
  setUp := Watched.state.liftSetUp Watched.state.lift p.setUp

def Job.watched (j : Job σ) : Job (Watched σ) where
  identifier := j.identifier
  config := j.config
  task := j.task.watched
  publisher := j.publisher.watched

/-! ## Where faults of the configuration come from -/

/-- A step fails with a fault of a stage. -/
theorem Running.step_ne_config {r : Running σ} {report : TaskReport} {s s' : σ} {e : PipelineError}
    (h : r.step report s = (.fails e, s')) (c : ConfigError) : e ≠ .config c := by
  rintro rfl
  unfold step transformStep loadStep at h
  grind

theorem Running.pump_ne_config {r : Running σ} {fuel : Nat} {report : TaskReport} {s s' : σ} {e : PipelineError}
    (h : r.pump fuel report s = (some (.error e), s')) (c : ConfigError) : e ≠ .config c := by
  induction fuel generalizing report s with
  | zero => cases h
  | succ fuel ih =>
    rw [pump] at h
    split at h
    · exact ih h
    · cases h
    · rename_i hs
      cases h
      exact step_ne_config hs c

theorem Task.run_ne_config {r : Running σ} {fuel : Nat} {s s' : σ} {e : PipelineError} {after : TaskState σ}
    (h : run fuel (.initialized r) s = (some (.error e), after, s')) (c : ConfigError) : e ≠ .config c := by
  rw [run] at h
  split at h
  · cases h
  rename_i result s₁ hp
  dsimp only at h
  split at h
  · cases h
    exact Running.pump_ne_config hp c
  · cases h
    simp
  · cases h

/-- A launch that ends with a fault of the configuration either could not set up the stages of
its task, or ran the task to its end and could then not set up the publisher. -/
theorem Job.launch_config {j : Job σ} {fuel : Nat} {ctx : RunContext} {s : σ} {e : ConfigError} {w : Watched σ}
    (h : j.watched.launch fuel ctx (s, []) = (some (.error (.config e)), w)) :
    (j.task.setUpStages j.config ctx s = (.error e, w.1) ∧ w.2 = []) ∨
    ∃ r s₁ report s₂, j.task.setUpStages j.config ctx s = (.ok r, s₁) ∧
      Task.run fuel (.initialized r) s₁ = (some (.ok report), .exhausted, s₂) ∧
      FinishedRun r.transforms (.ok report) .exhausted w.2 ∧
      j.publisher.setUp (j.config.scope j.publisher.scope) ctx s₂ = (.error e, w.1) := by
  have init := j.task.init_watched j.config ctx .uninitialized s []
  simp only [launch, watched, show (TaskState.uninitialized : TaskState (Watched σ)) =
    TaskState.uninitialized.watched from rfl, init] at h
  rw [Task.init] at h
  rcases hs : j.task.setUpStages j.config ctx s with ⟨e' | r, s₁⟩ <;> rw [hs] at h
  · cases h
    exact .inl ⟨rfl, rfl⟩
  obtain ⟨calls, hrun, -, hfinished⟩ := Task.run_watched r fuel s₁
  simp only [TaskState.watched, hrun] at h
  rcases hr : Task.run fuel (.initialized r) s₁ with ⟨_ | e' | report, after, s₂⟩ <;> rw [hr] at h hfinished
  · cases h
  · cases h
    exact absurd rfl (Task.run_ne_config hr e)
  · have finished := hfinished _ rfl
    obtain rfl : after = .exhausted := by
      have phase := finished.exhausted_iff.2 ⟨report, rfl⟩
      cases after <;> first | rfl | cases phase
    simp only [publish, Publisher.watched, Watched.state_liftSetUp] at h
    rcases hp : j.publisher.setUp (j.config.scope j.publisher.scope) ctx s₂ with ⟨e' | publish, s₃⟩ <;>
      simp only [hp, Except.map] at h
    · cases h
      exact .inr ⟨r, s₁, report, s₂, rfl, hr, finished, hp⟩
    · simp only [Prod.mk.injEq, Option.some.injEq] at h
      cases hpub : (Watched.state.lift publish (s₃, calls)).1 with
      | error e' => rw [hpub] at h; cases h.1
      | ok report => rw [hpub] at h; cases h.1

/-! ## Setting up writes no file -/

/-- Setting up a stage writes no file, whether it succeeds or not. -/
def SetsUpOnly {α : Type} (f : SetUp (RunState ν) α) : Prop :=
  ∀ (scope : Scope) (ctx : RunContext) (s : RunState ν), s.files.Unwritten (f scope ctx s).2.files

theorem setsUpOnly_csvExtractor : SetsUpOnly (csvExtractor (ν := ν)).setUp := by
  intro scope ctx s
  simp only [csvExtractor]
  split <;> exact .refl s.files

theorem setsUpOnly_restExtractor (net : Network ν) : SetsUpOnly (restExtractor net).setUp := by
  intro scope ctx s
  simp only [restExtractor]
  split <;> exact .refl s.files

theorem setsUpOnly_setUpFrom {α : Type} (settings : Settings α) (prepare : Scope → RunContext → α →
    Except ConfigError (Transform (RunState ν))) : SetsUpOnly (setUpFrom settings prepare) := by
  intro scope ctx s
  rw [setUpFrom]
  split <;> exact .refl s.files

theorem setsUpOnly_bulkLoader : SetsUpOnly (bulkLoader (ν := ν)).setUp := by
  intro scope ctx s
  simp only [bulkLoader, Loader.lift, Part.liftSetUp, Part.lift, BulkLoader.part]
  split
  · exact .refl s.files
  · exact BulkFiles.unwritten_prepare scope _ s.files

theorem unwritten_setUpAll {scope : Scope} {ctx : RunContext} {ts : List (Transformer (RunState ν))}
    (h : ∀ t ∈ ts, SetsUpOnly t.setUp) (s : RunState ν) :
    s.files.Unwritten (Transformer.setUpAll scope ctx ts s).2.files := by
  induction ts generalizing s with
  | nil => exact .refl s.files
  | cons t ts ih =>
    obtain ⟨first, rest⟩ := List.forall_mem_cons.1 h
    have here := first (scope.withScope t.scope) ctx s
    rw [Transformer.setUpAll]
    rcases hs : t.setUp (scope.withScope t.scope) ctx s with ⟨_ | f, s'⟩ <;> rw [hs] at here
    · exact here
    · exact here.trans (ih rest s')

theorem setsUpOnly_ofList {ts : List (Transformer (RunState ν))} (h : ∀ t ∈ ts, SetsUpOnly t.setUp) :
    ∀ t ∈ Transformer.ofList ts, SetsUpOnly t.setUp := by
  intro t ht scope ctx s
  match ts, ht with
  | [t], rfl => exact h t List.mem_cons_self scope ctx s
  | _ :: _ :: _, rfl => exact unwritten_setUpAll h s

/-- The stages of a task are set up without writing a file. -/
theorem Task.unwritten_setUpStages {t : Task (RunState ν)} (he : SetsUpOnly t.extractor.setUp)
    (ht : ∀ f ∈ t.transformer, SetsUpOnly f.setUp) (hl : SetsUpOnly t.loader.setUp) (config : JobConfig)
    (ctx : RunContext) (s : RunState ν) : s.files.Unwritten (t.setUpStages config ctx s).2.files := by
  have extracted := he (config.scope t.extractor.scope) ctx s
  unfold setUpStages
  cases (config.scope TaskConfig.scope).extract TaskConfig.settings with
  | error e => exact .refl s.files
  | ok settings =>
  rcases hs : t.extractor.setUp (config.scope t.extractor.scope) ctx s with ⟨_ | extract, s₁⟩ <;>
    rw [hs] at extracted
  · exact extracted
  cases hf : t.transformer with
  | none => exact extracted.trans (hl (config.scope t.loader.scope) ctx s₁)
  | some transformer =>
    have transformed := extracted.trans (ht transformer hf (config.scope transformer.scope) ctx s₁)
    simp only
    rcases hs : transformer.setUp (config.scope transformer.scope) ctx s₁ with ⟨_ | f, s₂⟩ <;>
      simp only [hs, Except.map] at transformed ⊢
    · exact transformed
    · exact transformed.trans (hl (config.scope t.loader.scope) ctx s₂)

/-! ## Jobs of the library -/

/-- Nothing was done: the source was not asked, nothing was handed to the sink, and no file
was written. -/
structure NoWork (calls : List StageCall) (before after : FileStore) : Prop where
  noExtract : ∀ answer, .extract answer ∉ calls
  noLoad : ∀ p answer, .load p answer ∉ calls
  unwritten : before.Unwritten after

namespace Assembly

variable {net : Network ν}

theorem setsUpOnly_extractor {name : String} {x : Extractor (RunState ν)} (h : extractor net name = .ok x) :
    SetsUpOnly x.setUp := by
  unfold extractor at h
  split at h
  · cases h
    exact setsUpOnly_csvExtractor
  · cases h
    exact setsUpOnly_restExtractor net
  · cases h

theorem setsUpOnly_transformer {name : String} {x : Transformer (RunState ν)} (h : transformer name = .ok x) :
    SetsUpOnly x.setUp := by
  unfold transformer at h
  split at h <;> cases h <;> exact setsUpOnly_setUpFrom _ _

theorem setsUpOnly_loader {name : String} {x : Loader (RunState ν)} (h : loader name = .ok x) :
    SetsUpOnly x.setUp := by
  unfold loader at h
  split at h <;> cases h
  exact setsUpOnly_bulkLoader

/-- Whether a publisher can be set up does not depend on what was done before. -/
theorem publisher_setUp_error {name : String} {x : Publisher (RunState ν)} (h : publisher name = .ok x)
    {scope : Scope} {ctx : RunContext} {s s' : RunState ν} {e : ConfigError}
    (he : x.setUp scope ctx s = (.error e, s')) (s₀ : RunState ν) : (x.setUp scope ctx s₀).1 = .error e := by
  unfold publisher at h
  split at h <;> cases h
  · cases he
  · exact congrArg Prod.fst he

/-- The parts of a job that was put together. -/
theorem job_ok {config : JobConfig} {j : Job (RunState ν)} (h : job net config = .ok j) :
    j.config = config ∧ (∃ name, extractor net name = .ok j.task.extractor) ∧
      (∃ (names : List String) (members : List (Transformer (RunState ν))),
        names.mapM transformer = .ok members ∧ j.task.transformer = Transformer.ofList members) ∧
      (∃ name, loader name = .ok j.task.loader) ∧ ∃ name, publisher name = .ok j.publisher := by
  obtain ⟨spec, -, h⟩ := except_bind_ok.1 h
  obtain ⟨source, hs, h⟩ := except_bind_ok.1 h
  obtain ⟨sink, hl, h⟩ := except_bind_ok.1 h
  obtain ⟨members, hm, h⟩ := except_bind_ok.1 h
  obtain ⟨target, hp, h⟩ := except_bind_ok.1 h
  cases h
  exact ⟨rfl, ⟨_, hs⟩, ⟨_, members, hm, rfl⟩, ⟨_, hl⟩, _, hp⟩

/-- The stages of a job's task are set up without writing a file. -/
theorem unwritten_setUpStages {config : JobConfig} {j : Job (RunState ν)} (h : job net config = .ok j)
    (ctx : RunContext) (s : RunState ν) : s.files.Unwritten (j.task.setUpStages config ctx s).2.files := by
  obtain ⟨-, ⟨_, he⟩, ⟨names, members, hm, ht⟩, ⟨_, hl⟩, -⟩ := job_ok h
  refine Task.unwritten_setUpStages (setsUpOnly_extractor he) ?_ (setsUpOnly_loader hl) config ctx s
  rw [ht]
  refine setsUpOnly_ofList fun t ht => ?_
  obtain ⟨name, -, hn⟩ := mem_mapM_ok hm t ht
  exact setsUpOnly_transformer hn

/-- A launch that ends with a fault of the configuration did nothing before, if and only if
it is the stages of the task that cannot be set up; so it did nothing, if the publisher can
be set up. -/
theorem noWork_iff {config : JobConfig} {j : Job (RunState ν)} (hj : job net config = .ok j)
    {fuel : Nat} {ctx : RunContext} {s : RunState ν} {e : ConfigError} {s' : RunState ν}
    {calls : List StageCall}
    (h : j.watched.launch fuel ctx (s, []) = (some (.error (.config e)), s', calls)) :
    (NoWork calls s.files s'.files ↔ (j.task.setUpStages config ctx s).1 = .error e) ∧
      ((∃ publish, (j.publisher.setUp (config.scope j.publisher.scope) ctx s).1 = .ok publish) →
        NoWork calls s.files s'.files) := by
  obtain ⟨rfl, -, -, -, name, hp⟩ := job_ok hj
  have unwritten := unwritten_setUpStages hj ctx s
  rcases Job.launch_config h with ⟨hs, rfl⟩ | ⟨r, s₁, report, s₂, hs, hr, hfinished, hpub⟩
  · rw [hs] at unwritten
    have quiet : NoWork [] s.files s'.files :=
      ⟨fun _ => List.not_mem_nil, fun _ _ => List.not_mem_nil, unwritten⟩
    exact ⟨iff_of_true quiet (congrArg Prod.fst hs), fun _ => quiet⟩
  · obtain ⟨rounds, -, hcalls⟩ := hfinished.rounds report rfl
    have asked : .extract .finished ∈ calls := by
      rw [show calls = _ from hcalls]
      exact List.mem_append_right _ List.mem_cons_self
    refine ⟨iff_of_false (fun quiet => quiet.noExtract .finished asked) (by simp [hs]), fun ⟨publish, hok⟩ => ?_⟩
    rw [publisher_setUp_error hp hpub s] at hok
    cases hok

/-! ## A job that fails after its work -/

/-- A network without a way to any host. -/
def offline : Network Unit where
  send _ s := (.failed "no way to any host" false, s)
  wait _ s := s

/-- A file with one statistic. -/
def statFiles : FileStore where
  entries := [(["rows.csv"], .file (Utf8.encode
    "table_name,col_name,stat_name,stat_val,start_epoch,end_epoch\ncore.orders,id,max,7,1,2\n"))]

/-- The settings of a job that loads the statistic and publishes it; those of the sink and of
the script are given. -/
def statConfig (sink script : List (String × Datum)) : JobConfig where
  tree := .ok [
    ("extractor", .table [("csv", .table
      [("file_location", .text "/rows.csv"), ("model_class", .text "table_column_stats")])]),
    ("job", .table [("extractor", .text "csv"), ("publisher", .text "cypher")]),
    ("loader", .table [("filesystem_csv", .table sink)]),
    ("publisher", .table [("cypher", .table script)])]

def statJob (sink script : List (String × Datum)) : Job (RunState Unit) where
  identifier := "databuilder-job"
  config := statConfig sink script
  task := { extractor := csvExtractor, loader := bulkLoader }
  publisher := cypherPublisher

theorem job_statConfig (sink script : List (String × Datum)) :
    job offline (statConfig sink script) = .ok (statJob sink script) := by
  have spec : (statConfig sink script).job.toOption =
      some ⟨"databuilder-job", "csv", [], "filesystem_csv", "cypher"⟩ := rfl
  rw [job, except_eq_ok_of_toOption spec]
  rfl

def statSink : List (String × Datum) :=
  [("node_dir_path", .text "/nodes"), ("relationship_dir_path", .text "/rels")]

/-- The settings of the script, without the path it is written to. -/
def statScript : List (String × Datum) :=
  [("node_files_directory", .text "/nodes"), ("relation_files_directory", .text "/rels")]

def statLaunch (sink script : List (String × Datum)) :
    Option (Except PipelineError JobReport) × Watched (RunState Unit) :=
  (statJob sink script).watched.launch 3 { runId := "1" } ({ files := statFiles, network := () }, [])

/-- Without directories for the sink nothing is done. -/
theorem noWork_statJob :
    ∃ s' calls, statLaunch [] (("output_path", .text "/script.cypher") :: statScript) =
        (some (.error (.config (.missingField "loader.filesystem_csv.node_dir_path"))), s', calls) ∧
      NoWork calls statFiles s'.files := by
  have launched : statLaunch [] (("output_path", .text "/script.cypher") :: statScript) =
      (some (.error (.config (.missingField "loader.filesystem_csv.node_dir_path"))), _, _) :=
    Prod.ext (by decide +kernel) rfl
  exact ⟨_, _, launched, (noWork_iff (job_statConfig _ _) launched).2 ⟨_, rfl⟩⟩

/-- Without a path for the script the statistic is extracted, loaded and written to a file
before the launch ends with a fault of the configuration. -/
theorem work_statJob :
    job offline (statConfig statSink statScript) = .ok (statJob statSink statScript) ∧
    ∃ s' calls, statLaunch statSink statScript =
        (some (.error (.config (.missingField "publisher.cypher.output_path"))), s', calls) ∧
      (∃ c ∈ calls, c.payload?.isSome) ∧ (∃ c ∈ calls, c.loads = true) ∧
      statFiles.isFile "/nodes/Stat_0.csv" = false ∧ s'.files.isFile "/nodes/Stat_0.csv" = true ∧
      ¬ NoWork calls statFiles s'.files := by
  obtain ⟨launched, extracted, loaded, absent, written⟩ : (statLaunch statSink statScript).1 =
        some (.error (.config (.missingField "publisher.cypher.output_path"))) ∧
      (∃ c ∈ (statLaunch statSink statScript).2.2, c.payload?.isSome) ∧
      (∃ c ∈ (statLaunch statSink statScript).2.2, c.loads = true) ∧
      statFiles.isFile "/nodes/Stat_0.csv" = false ∧
      (statLaunch statSink statScript).2.1.files.isFile "/nodes/Stat_0.csv" = true := by
    decide +kernel
  refine ⟨job_statConfig _ _, _, _, Prod.ext launched rfl, extracted, loaded, absent, written, fun quiet => ?_⟩
  obtain ⟨_ | _ | _ | _, hc, given⟩ := extracted
  · exact quiet.noExtract _ hc
  all_goals cases given

end Assembly

end MetaGraph

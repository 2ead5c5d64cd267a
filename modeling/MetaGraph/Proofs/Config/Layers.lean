/-
What a component finds in its settings. The environment is laid over the job
file when a job is loaded, and what both say below a scope is laid over the
defaults when a component asks for it. Seen from the paths this is one order
of precedence, and nothing outside the scope matters.
-/
import MetaGraph.Component.RestExtractor
import MetaGraph.Proofs.Config.Environment
import MetaGraph.Proofs.Except
import MetaGraph.Proofs.Toml.Ordered

namespace MetaGraph

/-! ## Scopes as paths -/

namespace JobConfig

/-- The steps of a dotted path, of which an empty one is the end. -/
def steps (path : String) : List String := (Text.splitOn '.' path).takeWhile (· ≠ "")

theorem descend?_eq (path : List String) (d : Datum) :
    Datum.descend? path d = d.at? (path.takeWhile (· ≠ "")) := by
  induction path generalizing d with
  | nil => rw [Datum.descend?, List.takeWhile_nil, Datum.at?_nil]
  | cons step rest ih =>
    unfold Datum.descend?
    by_cases last : step = ""
    · rw [if_pos last, List.takeWhile_cons_of_neg (by simpa using last), Datum.at?_nil]
    · rw [if_neg last, List.takeWhile_cons_of_pos (by simpa using last)]
      cases d with
      | table entries =>
        rw [Datum.at?_table_cons]
        dsimp only
        cases KeyMap.get? entries step with
        | none => rfl
        | some value => exact ih value
      | _ => rfl

theorem focus_eq (c : JobConfig) (path : String) :
    c.focus path = c.tree.map fun entries => (Datum.table entries).entriesAt (steps path) := by
  cases c with
  | mk tree =>
    cases tree with
    | error e => rfl
    | ok entries =>
      rw [Except.map, Datum.entriesAt, steps, ← descend?_eq]
      dsimp only [focus, bind, Except.bind]
      cases Datum.descend? (Text.splitOn '.' path) (.table entries) with
      | none => rfl
      | some value => cases value <;> rfl

/-- What stands at a path below a scope, if there are settings at all. -/
def look? (c : JobConfig) (scope : String) (path : List String) : Option (Option Datum) :=
  c.tree.toOption.map fun entries => (Datum.table entries).face? (steps scope ++ path)

/-! ## Where settings come from -/

/-- The settings in a job file; a directory in its place holds none. -/
def ofFile (s : FileStore) (path : String) : JobConfig :=
  match s.read path with
  | .ok content => ofBytes content
  | .error _ => empty

/-- The settings that a program can have: from a text, from a job file with the environment laid
over it, or from data of its own. -/
inductive Made : JobConfig → Prop
  | text (text : String) : Made (ofToml text)
  | file {s : FileStore} {vars : List (String × String)} {path : String} {c : JobConfig} :
      load s vars path = .ok c → Made c
  | data {d : Datum} : d.Ordered → Made (ofDatum d)

/-- The tables of the settings are in order. -/
def Ordered (c : JobConfig) : Prop := ∀ entries, c.tree = .ok entries → (Datum.table entries).Ordered

theorem ordered_empty : empty.Ordered := by
  intro entries given
  cases given
  exact Datum.ordered_empty

theorem ordered_ofToml (text : String) : (ofToml text).Ordered := by
  intro entries given
  rw [ofToml] at given
  split at given
  · rename_i read
    cases given
    exact Toml.ordered_parse read
  · cases given

theorem ordered_ofFile (s : FileStore) (path : String) : (ofFile s path).Ordered := by
  rw [ofFile]
  split
  · rw [ofBytes]
    split
    · exact ordered_ofToml _
    · exact nofun
  · exact ordered_empty

theorem ordered_ofDatum {d : Datum} (h : d.Ordered) : (ofDatum d).Ordered := by
  intro entries given
  cases d with
  | table entries =>
    cases given
    exact h
  | _ => cases given

theorem ordered_overlay {c : JobConfig} (h : c.Ordered) {upper : List (String × Datum)}
    (hu : (Datum.table upper).Ordered) : (c.overlay upper).Ordered := by
  intro entries given
  obtain ⟨lower, hl, rfl⟩ := except_map_ok.1 given
  rw [← Datum.overlay_tables]
  exact Datum.ordered_overlay (h lower hl) hu

/-- Loading succeeds with any file there is, readable or not. -/
theorem load_eq {s : FileStore} {path : String} (present : s.pathExists path = true) {vars : List (String × String)}
    {upper : List (String × Datum)} (he : Environment.settings vars = .table upper) :
    load s vars path = .ok ((ofFile s path).overlay upper) := by
  rw [load, if_pos present, he]
  rfl

theorem Made.ordered {c : JobConfig} (h : c.Made) : c.Ordered := by
  cases h with
  | text text => exact ordered_ofToml text
  | data hd => exact ordered_ofDatum hd
  | @file s vars path _ loaded =>
    by_cases present : s.pathExists path = true
    · obtain ⟨upper, he⟩ := Environment.settings_eq_table vars
      rw [load_eq present he] at loaded
      cases loaded
      exact ordered_overlay (ordered_ofFile s path) (he ▸ Environment.ordered_settings vars)
    · rw [load, if_neg present] at loaded
      cases loaded

end JobConfig

/-! ## Layers seen from the paths -/

/-- What is said about a scope: in the whole tree of the environment, in that of the job file, and
by the defaults of its component. -/
structure Layers where
  environment : Datum
  file : Datum
  defaults : Datum
  scope : List String

namespace Layers

/-- No layer has a single value on the way to what a lower one has at the path. -/
def Clear (l : Layers) (path : List String) : Prop :=
  (l.environment.Blocks (l.scope ++ path) → l.file.at? (l.scope ++ path) = none) ∧
  ((l.environment.part l.scope).Blocks path ∨ (l.file.part l.scope).Blocks path → l.defaults.at? path = none)

instance (l : Layers) (path : List String) : Decidable (l.Clear path) :=
  inferInstanceAs (Decidable (_ ∧ _))

/-- What the highest layer has that has anything at the path. -/
def first? (l : Layers) (path : List String) : Option Datum :=
  l.environment.face? (l.scope ++ path) <|> l.file.face? (l.scope ++ path) <|> l.defaults.face? path

/-- The tree holds what the layers say. -/
structure United (l : Layers) (tree : Datum) : Prop where
  /-- At each path the highest layer counts. -/
  looks : ∀ path, path ≠ [] → l.Clear path → tree.face? path = l.first? path
  /-- What is neither in the environment nor in the file is as by default, with all below it. -/
  kept : ∀ path, path ≠ [] → l.Clear path → l.environment.at? (l.scope ++ path) = none →
    l.file.at? (l.scope ++ path) = none → tree.at? path = l.defaults.at? path
  ordered : l.defaults.Ordered → tree.Ordered

/-- What is laid over the defaults: the part of the united tree below the scope. -/
def given (l : Layers) : Datum := (Datum.overlay l.file l.environment).part l.scope

variable {l : Layers}

theorem blocks_given (he : l.environment.Ordered) {path : List String} (h : l.given.Blocks path) :
    (l.environment.part l.scope).Blocks path ∨ (l.file.part l.scope).Blocks path := by
  obtain ⟨front, back, v, whole, more, found, single⟩ := h
  have inside : front ≠ [] := by
    intro none
    rw [none, Datum.at?_nil, Option.some.injEq] at found
    rw [← found] at single
    cases single
  rw [given, Datum.at?_part _ _ inside] at found
  rcases Datum.at?_overlay_single he found single with hf | he
  · exact .inr ⟨front, back, v, whole, more, by rw [Datum.at?_part _ _ inside, hf], single⟩
  · exact .inl ⟨front, back, v, whole, more, by rw [Datum.at?_part _ _ inside, he], single⟩

/-- Laying the environment over the file and the part below the scope over the defaults is laying
three values over each other at each path. -/
theorem at?_overlay_given (he : l.environment.Ordered) (hf : l.file.Ordered) {path : List String} (below : path ≠ [])
    (clear : l.Clear path) : (Datum.overlay l.defaults l.given).at? path =
      Datum.over? (l.defaults.at? path)
        (Datum.over? (l.file.at? (l.scope ++ path)) (l.environment.at? (l.scope ++ path))) := by
  have ordered : l.given.Ordered := Datum.ordered_part (Datum.ordered_overlay hf he) l.scope
  rw [Datum.at?_overlay ordered l.defaults path fun blocks => clear.2 (blocks_given he blocks), given,
    Datum.at?_part _ _ below, Datum.at?_overlay he l.file _ clear.1]

theorem united_overlay_given (he : l.environment.Ordered) (hf : l.file.Ordered) :
    l.United (Datum.overlay l.defaults l.given) where
  looks path below clear := by
    rw [Datum.face?, at?_overlay_given he hf below clear, Datum.map_face_over?, Datum.map_face_over?]
    simp only [first?, Datum.face?, Option.orElse_eq_orElse, Option.orElse_eq_or, Option.or_assoc]
  kept path below clear he' hf' := by
    rw [at?_overlay_given he hf below clear, he', hf', Datum.over?_none_right, Datum.over?_none_right]
  ordered hd := Datum.ordered_overlay hd (Datum.ordered_part (Datum.ordered_overlay hf he) l.scope)

end Layers

/-! ## What a component finds -/

namespace Scope

open JobConfig (steps)

variable {α : Type} {settings : Settings α} {c c' : JobConfig} {scope : String}

theorem extract_ok {entries : List (String × Datum)} (readable : c.tree = .ok entries) :
    (c.scope scope).extract settings = (settings.shape.ofEntries .config
      (Datum.overlayEntries settings.defaults ((Datum.table entries).entriesAt (steps scope)))).mapError
        (c.scope scope).invalid := by
  rw [extract, JobConfig.scope, JobConfig.focus_eq, readable]
  rfl

theorem extract_error {e : DecodeError} (broken : c.tree = .error e) :
    (c.scope scope).extract settings = .error ((c.scope scope).invalid e) := by
  rw [extract, JobConfig.scope, JobConfig.focus_eq, broken]
  rfl

/-- Settings that agree below a scope give the same there, or a fault both times. -/
theorem extract_toOption_eq (h : c.Ordered) (h' : c'.Ordered)
    (same : ∀ path, path ≠ [] → c.look? scope path = c'.look? scope path) :
    ((c.scope scope).extract settings).toOption = ((c'.scope scope).extract settings).toOption := by
  have somewhere := same ["value"] (List.cons_ne_nil _ _)
  cases read : c.tree with
  | error e =>
    cases read' : c'.tree with
    | error e' => rw [extract_error read, extract_error read']; rfl
    | ok entries' => simp [JobConfig.look?, read, read', Except.toOption] at somewhere
  | ok entries =>
    cases read' : c'.tree with
    | error e' => simp [JobConfig.look?, read, read', Except.toOption] at somewhere
    | ok entries' =>
      have looks (path : List String) (below : path ≠ []) : (Datum.table entries).face? (steps scope ++ path) =
          (Datum.table entries').face? (steps scope ++ path) := by
        simpa [JobConfig.look?, read, read', Except.toOption] using same path below
      rw [extract_ok read, extract_ok read', Datum.entriesAt_eq (h entries read) (h' entries' read') looks]
      rfl

/-- A component reads the tree in which the environment goes before the job file and the job file
before the defaults, path by path; what is said outside its scope does not matter to it. -/
theorem extract_united (settings : Settings α) (scope : String) :
    (∀ (s : FileStore) (path : String) (vars : List (String × String)), s.pathExists path = true →
      ∃ c, JobConfig.load s vars path = .ok c ∧
        (∀ file, (JobConfig.ofFile s path).tree = .ok file → ∃ tree,
          (c.scope scope).extract settings =
            (settings.shape.ofEntries .config tree).mapError (c.scope scope).invalid ∧
          Layers.United ⟨Environment.settings vars, .table file, .table settings.defaults, steps scope⟩
            (.table tree)) ∧
        ∀ e, (JobConfig.ofFile s path).tree = .error e →
          (c.scope scope).extract settings = .error ((c.scope scope).invalid e)) ∧
    ∀ c c' : JobConfig, c.Made → c'.Made →
      (∀ path, path ≠ [] → c.look? scope path = c'.look? scope path) →
      ((c.scope scope).extract settings).toOption = ((c'.scope scope).extract settings).toOption := by
  constructor
  · intro s path vars present
    obtain ⟨upper, he⟩ := Environment.settings_eq_table vars
    refine ⟨_, JobConfig.load_eq present he, ?_, ?_⟩
    · intro file readable
      refine ⟨_, extract_ok (by rw [JobConfig.overlay, readable]; rfl), ?_⟩
      rw [← Datum.overlay_tables, ← Datum.overlay_tables, ← he]
      exact Layers.united_overlay_given
        (l := ⟨Environment.settings vars, .table file, .table settings.defaults, steps scope⟩)
        (Environment.ordered_settings vars) (JobConfig.ordered_ofFile s path file readable)
    · intro e broken
      exact extract_error (by rw [JobConfig.overlay, broken]; rfl)
  · intro c c' made made' same
    exact extract_toOption_eq made.ordered made'.ordered same

/-- A job file that gives one field of a nested table. -/
def retryStore : FileStore where
  entries := [(["job.toml"], .file (Utf8.encode "[extractor.restapi.chain.retry]\nmax_attempts = 2\n"))]

/-- An environment that gives another one. -/
def retryVariables : List (String × String) := [("DATABUILDER_EXTRACTOR__RESTAPI__CHAIN__RETRY__MAX_BACKOFF_MS", "50")]

def retryLayers (file : List (String × Datum)) : Layers where
  environment := Environment.settings retryVariables
  file := .table file
  defaults := .table RestExtractorConfig.settings.defaults
  scope := steps "extractor.restapi"

/-- The same table as data, alone and beside a table that is no concern of the source. -/
def retryTable : Datum :=
  .table [("restapi", .table [("chain", .table [("retry", .table [("max_attempts", .integer true 2)])])])]

def retryAlone : Datum := .table [("extractor", retryTable)]

def retryBeside : Datum := .table [("extractor", retryTable), ("job", .table [("loader", .text "none")])]

theorem ordered_retryBeside : retryAlone.Ordered ∧ retryBeside.Ordered := by
  have table : retryTable.Ordered :=
    Datum.ordered_singleton (Datum.ordered_singleton (Datum.ordered_singleton (Datum.ordered_singleton
      (Datum.ordered_of_not_table rfl) _) _) _) _
  have other : (Datum.table [("loader", .text "none")]).Ordered :=
    Datum.ordered_singleton (Datum.ordered_of_not_table (d := .text _) rfl) _
  have alone : retryAlone.Ordered := Datum.ordered_singleton table "extractor"
  exact ⟨alone, Datum.ordered_insert alone other "job"⟩

/-- One field of a table is from the file, one from the environment, and a third as by default. -/
theorem extract_united_retry :
    (retryStore.pathExists "/job.toml" = true ∧
      ∃ c tree, JobConfig.load retryStore retryVariables "/job.toml" = .ok c ∧
        (c.scope "extractor.restapi").extract RestExtractorConfig.settings =
          .ok { chain := { retry := { maxAttempts := 2, maxBackoff := 50 } } } ∧
        (c.scope "extractor.restapi").extract RestExtractorConfig.settings =
          (RestExtractorConfig.settings.shape.ofEntries .config tree).mapError
            (c.scope "extractor.restapi").invalid ∧
        (["max_attempts", "max_backoff_ms", "initial_backoff_ms"].map fun field =>
          ((Datum.table tree).face? ["chain", "retry", field]).map Datum.toJson) =
            [some (.int 2), some (.int 50), some (.int 1000)]) ∧
    (((JobConfig.ofDatum retryAlone).scope "extractor.restapi").extract RestExtractorConfig.settings).toOption =
      (((JobConfig.ofDatum retryBeside).scope "extractor.restapi").extract RestExtractorConfig.settings).toOption := by
  obtain ⟨layered, apart⟩ := extract_united RestExtractorConfig.settings "extractor.restapi"
  have present : retryStore.pathExists "/job.toml" = true := by decide +kernel
  have readable : (JobConfig.ofFile retryStore "/job.toml").tree.toOption.isSome = true := by decide +kernel
  have clear : ∀ file ∈ (JobConfig.ofFile retryStore "/job.toml").tree.toOption,
      ∀ field ∈ ["max_attempts", "max_backoff_ms", "initial_backoff_ms"],
        (retryLayers file).Clear ["chain", "retry", field] := by decide +kernel
  have values : ∀ file ∈ (JobConfig.ofFile retryStore "/job.toml").tree.toOption,
      (["max_attempts", "max_backoff_ms", "initial_backoff_ms"].map fun field =>
        ((retryLayers file).first? ["chain", "retry", field]).map Datum.toJson) =
          [some (.int 2), some (.int 50), some (.int 1000)] := by decide +kernel
  have whole : (JobConfig.load retryStore retryVariables "/job.toml").toOption.bind
      (fun c => ((c.scope "extractor.restapi").extract RestExtractorConfig.settings).toOption) =
        some { chain := { retry := { maxAttempts := 2, maxBackoff := 50 } } } := by decide +kernel
  constructor
  · obtain ⟨c, loaded, united, -⟩ := layered retryStore "/job.toml" retryVariables present
    obtain ⟨file, given⟩ := Option.isSome_iff_exists.1 readable
    obtain ⟨tree, decodes, united⟩ := united file (except_eq_ok_of_toOption given)
    rw [loaded] at whole
    refine ⟨present, c, tree, loaded, except_eq_ok_of_toOption whole, decodes, ?_⟩
    rw [← values file given]
    refine List.map_congr_left fun field hf => ?_
    rw [united.looks _ (List.cons_ne_nil _ _) (clear file given field hf)]
    rfl
  · refine apart _ _ (.data ordered_retryBeside.1) (.data ordered_retryBeside.2) fun path _ => ?_
    have front : steps "extractor.restapi" = ["extractor", "restapi"] := by decide +kernel
    rw [JobConfig.look?, JobConfig.look?, front]
    rfl

end Scope

end MetaGraph

import NotebookCheck.Proofs.ConfigurationLoading
import NotebookCheck.Proofs.OverrideBounds
import NotebookCheck.Proofs.SettingsBlame

namespace NotebookCheck

namespace Configuration

def settled (path : String) (file : File) (env : Environment) : Except Problem Configuration :=
  ofFile path file >>= fun c => (c.overridden env).checked

theorem value_load_eq_settled (path : String) (file : File) (env : Environment) (m : Moment) :
    (load path file env m).value = some (settled path file env) :=
  value_load path file env m

theorem value_loadOrDefault_of_present (path : String) {file : File} (env : Environment)
    (hfile : file ≠ .missing) (m : Moment) :
    (loadOrDefault path file env m).value = some (settled path file env) := by
  cases file with
  | missing => exact absurd rfl hfile
  | unreadable reason => exact value_load_eq_settled path _ env m
  | bytes content => exact value_load_eq_settled path _ env m

end Configuration

def Entry.IsEvent : Entry → Prop
  | event _ => True
  | _ => False

theorem Entry.IsEvent.isSilent {entry : Entry} (h : entry.IsEvent) : entry.IsSilent := by
  cases entry with
  | event _ => rfl
  | call _ | count _ | sample _ _ | connect _ | print _ => exact h.elim

theorem Work.Records.prints_of_events {α : Type} {w : Work α} (h : w.Records Entry.IsEvent)
    (m : Moment) : (w m).prints = [] :=
  (h.mono fun _ => Entry.IsEvent.isSilent).prints_eq_nil m

theorem Configuration.records_load (path : String) (file : File) (env : Environment) :
    (load path file env).Records Entry.IsEvent := by
  intro m entry hentry
  rw [load] at hentry
  cases hfile : ofFile path file with
  | error problem =>
      rw [hfile] at hentry
      cases hentry
  | ok c =>
      rw [hfile] at hentry
      change entry ∈ (ignoredVariables env).map Entry.event ++ [] at hentry
      rw [List.append_nil, List.mem_map] at hentry
      obtain ⟨event, -, rfl⟩ := hentry
      trivial

namespace CommandLine

section Loading

variable (s : Surroundings) {path : String}

theorem value_loadConfig (hfile : s.file path ≠ .missing) (m : Moment) :
    (loadConfig s path m).value =
      some ((Configuration.settled path (s.file path) s.env).mapError
        fun problem => .config problem.message) := by
  have hmap := Work.bind_pure_apply
    (Configuration.loadOrDefault path (s.file path) s.env)
    (Except.mapError (configFailure (s.file path))) m
  rw [loadConfig, hmap, Configuration.value_loadOrDefault_of_present path s.env hfile]
  cases hcase : s.file path with
  | missing => exact absurd hcase hfile
  | unreadable reason => rfl
  | bytes content => rfl

theorem records_loadConfig (hfile : s.file path ≠ .missing) :
    (loadConfig s path).Records Entry.IsEvent := by
  refine Work.records_bind ?_ fun _ => Work.records_pure _
  cases hcase : s.file path with
  | missing => exact absurd hcase hfile
  | unreadable reason => exact Configuration.records_load path _ s.env
  | bytes content => exact Configuration.records_load path _ s.env

end Loading

def loadToShow (s : Surroundings) (path : String) : Run Configuration :=
  Run.ofWork do
    return (← Configuration.load path (s.file path) s.env).mapError Failure.core

section Showing

variable (s : Surroundings) (path : String)

theorem run_loadToShow (m : Moment) :
    (loadToShow s path).run m =
      ⟨some ((Configuration.settled path (s.file path) s.env).mapError Failure.core),
        (Configuration.load path (s.file path) s.env m).elapsed,
        (Configuration.load path (s.file path) s.env m).entries⟩ := by
  have hmap := Work.bind_pure_apply (Configuration.load path (s.file path) s.env)
    (Except.mapError Failure.core) m
  rw [Configuration.value_load_eq_settled] at hmap
  exact hmap

theorem showConfig_eq (format : Format) (sectionName : Option String) :
    showConfig s format path sectionName =
      Run.perform (Work.note .info "loading configuration" [("path", .text path)]) >>= fun _ =>
        loadToShow s path >>= fun config => Run.ofExcept (pickSection sectionName) >>= fun only =>
          s.conclude format (ConfigReport.ofConfiguration s.writer path only config).report none :=
  rfl

end Showing

def Action.Examines : Action → Prop
  | .verify _ | .wait _ | .check _ | .resources _ => True
  | .validateConfig | .showConfig _ => False

def Action.KeepsConfigured : Action → Prop
  | .verify o => o.NamesPackages ∧ o.timeout = none ∧ o.runtime = none
  | .wait o => o.timeout = none
  | .check o => (∃ checks, SnippetSuite.ofName o.suite = .ok checks) ∧ o.overallTimeout = none
  | .resources _ | .validateConfig | .showConfig _ => False

theorem Action.KeepsConfigured.examines {action : Action} (h : action.KeepsConfigured) :
    action.Examines := by
  cases action with
  | verify _ | wait _ | check _ => trivial
  | resources _ | validateConfig | showConfig _ => exact h.elim

section Examination

variable (s : Surroundings) (format : Format)

def examine (action : Action) (config : Configuration) : Run Unit :=
  match action with
  | .verify o => verify s format config o
  | .wait o => wait s format config o
  | .check o => check s format config o
  | .resources o => resources s format config o
  | .validateConfig | .showConfig _ => pure ()

variable {action : Action}

theorem run_eq_examine (h : action.Examines) (path : String) (level : Option String) :
    Invocation.run ⟨path, level, format, action⟩ s =
      Run.perform (loadConfig s path) >>= fun loaded =>
        Run.ofExcept loaded >>= examine s format action := by
  cases action with
  | verify _ | wait _ | check _ | resources _ => rfl
  | validateConfig | showConfig _ => exact h.elim

theorem check_settings_of_keepsConfigured {o : VerifyOptions} (h : o.runtime = none)
    (config : Configuration) : (o.settings config).check = config.settings.check := by
  rw [VerifyOptions.settings, h]
  rfl

theorem WaitOptions.settings_of_no_timeout {o : WaitOptions} (h : o.timeout = none)
    (config : Configuration) : o.settings config = config.settings := by
  rw [settings, h]
  rfl

theorem CheckOptions.settings_of_no_timeout {o : CheckOptions} (h : o.overallTimeout = none)
    (config : Configuration) : o.settings config = config.settings := by
  rw [settings, h]
  rfl

theorem reaches_examine_iff (h : action.KeepsConfigured) (config : Configuration) (m : Moment) :
    ((examine s format action config).run m).Reaches ↔ config.settings.check = .ok () := by
  cases action with
  | verify o =>
      obtain ⟨hnames, htimeout, hruntime⟩ := h
      have hreaches := reaches_verify_iff s format config m o
      rw [← Settings.check_eq_ok_iff, check_settings_of_keepsConfigured hruntime,
        htimeout] at hreaches
      refine Iff.trans hreaches ?_
      simp [hnames]
  | wait o =>
      have hreaches := reaches_wait_iff s format config m o
      rwa [o.settings_of_no_timeout h] at hreaches
  | check o =>
      have hreaches := reaches_check_iff s format config m o
      rwa [o.settings_of_no_timeout h.2, and_iff_right h.1] at hreaches
  | resources _ | validateConfig | showConfig _ => exact h.elim

theorem run_examineAndConclude_of_refused {ρ : Type} (examination : Attempt ρ)
    (report : ρ → Report) (failure? : ρ → Option Failure) {fault : Fault} {m : Moment}
    (h : examination.run m = ⟨some (.error fault), 0, []⟩) :
    (examineAndConclude s format examination report failure?).run m =
      ⟨some (.error (.ofFault fault)), 0, []⟩ := by
  have hattempt := run_attempt examination m
  rw [h] at hattempt
  rw [examineAndConclude, Attempt.run_bind_of_error _ _ _ (congrArg Trace.value hattempt),
    hattempt]

theorem run_examine_of_refused (h : action.KeepsConfigured) {config : Configuration}
    {fault : Fault} (hcheck : config.settings.check = .error fault) (m : Moment) :
    (examine s format action config).run m = ⟨some (.error (.ofFault fault)), 0, []⟩ := by
  cases action with
  | verify o =>
      refine run_examineAndConclude_of_refused s format (examinePackages s config o)
        VerifyReport.report VerifyReport.failure? ?_
      rw [examinePackages, check_settings_of_keepsConfigured h.2.2, hcheck]
      rfl
  | wait o =>
      refine run_examineAndConclude_of_refused s format (examineReadiness s config o)
        WaitReport.report (WaitReport.failure? (o.settings config).readinessTimeout) ?_
      rw [examineReadiness, o.settings_of_no_timeout h, hcheck]
      rfl
  | check o =>
      refine run_examineAndConclude_of_refused s format (examineSnippets s config o)
        CheckReport.report CheckReport.failure? ?_
      obtain ⟨⟨checks, hsuite⟩, htimeout⟩ := h
      rw [examineSnippets, o.settings_of_no_timeout htimeout, hsuite]
      dsimp only
      rw [hcheck]
      rfl
  | resources _ | validateConfig | showConfig _ => exact h.elim

end Examination

section

variable {α β : Type}

theorem run_perform_bind {w : Work α} (f : α → Run β) {m : Moment} {a : α}
    (h : (w m).value = some a) :
    (Run.perform w >>= f).run m = (w m).followedBy ((f a).run (m.after (w m))) := by
  have hperform : (Run.perform w).run m =
      ⟨(w m).value.map .ok, (w m).elapsed, (w m).entries⟩ := Work.map_apply Except.ok w m
  rw [h] at hperform
  rw [Attempt.run_bind_of_ok _ _ _ (congrArg Trace.value hperform), hperform]
  rfl

theorem run_ofExcept_bind (a : α) (f : α → Run β) (m : Moment) :
    (Run.ofExcept (.ok a) >>= f).run m = (f a).run m := by
  change (Trace.mk (some (Except.ok a)) 0 []).followedBy ((f a).run m) = _
  simp only [Trace.followedBy, Nat.zero_add, List.nil_append]

theorem filterMap_events {γ : Type} {view : Entry → Option γ} {entries : List Entry}
    (hview : ∀ e, view (.event e) = none) (h : ∀ entry ∈ entries, entry.IsEvent) :
    entries.filterMap view = [] := by
  rw [List.filterMap_eq_nil_iff]
  intro entry hentry
  have hevent := h entry hentry
  cases entry with
  | event e => exact hview e
  | call _ | count _ | sample _ _ | connect _ | print _ => exact hevent.elim

end

/-- What a run leaves that ends on account of its configuration: the exit code says so, no target is
reached, nothing is asked and nothing printed. -/
structure EndsWithConfiguration (t : Trace (Except Failure Unit)) : Prop where
  exitCode : t.value.map exitCodeOf = some 2
  not_reaches : ¬ t.Reaches
  calls : t.calls = []
  prints : t.prints = []

theorem endsWithConfiguration_of_events {t : Trace (Except Failure Unit)}
    (h : ∀ entry ∈ t.entries, entry.IsEvent) (hexit : t.value.map exitCodeOf = some 2) :
    EndsWithConfiguration t where
  exitCode := hexit
  not_reaches := by
    rintro ⟨backend, hbackend⟩
    exact h _ hbackend
  calls := filterMap_events (fun _ => rfl) h
  prints := filterMap_events (fun _ => rfl) h

section Verdict

variable (s : Surroundings) {path : String} (level : Option String) (format : Format)

theorem configProblem?_eq_none_iff (loaded : Except Problem Configuration) :
    configProblem? loaded = none ↔ ∃ c, loaded = .ok c ∧ c.settings.check = .ok () := by
  cases loaded with
  | error problem => simp [configProblem?]
  | ok c =>
      cases hcheck : c.settings.check with
      | error fault => simp [configProblem?, hcheck]
      | ok _ => simp [configProblem?, hcheck]

theorem exitCode_validateConfig (path : String) (m : Moment) :
    ((validateConfig s format path).run m).value.map exitCodeOf =
      some (if configProblem? (Configuration.settled path (s.file path) s.env) = none then 0
        else 2) := by
  have hnoted : validateConfig s format path =
      Run.perform (Work.note .info "validating configuration" [("path", .text path)]) >>= fun _ =>
        Run.perform (Configuration.load path (s.file path) s.env) >>= fun loaded =>
          let report : ValidationReport := { path, problem := configProblem? loaded }
          s.conclude format report.report
            (if report.isValid then none else some (.config "configuration is invalid")) := rfl
  rw [hnoted, run_perform_bind _ rfl, Trace.value_followedBy,
    run_perform_bind _ (Configuration.value_load_eq_settled path (s.file path) s.env _),
    Trace.value_followedBy, run_conclude]
  cases configProblem? (Configuration.settled path (s.file path) s.env) with
  | none => rfl
  | some message => rfl

variable (hfile : s.file path ≠ .missing)

include hfile

theorem exitCode_validation (m : Moment) :
    ((Invocation.run ⟨path, level, format, .validateConfig⟩ s).run m).value.map exitCodeOf =
      some (if configProblem? (Configuration.settled path (s.file path) s.env) = none then 0
        else 2) := by
  have hrun : Invocation.run ⟨path, level, format, .validateConfig⟩ s =
      Run.perform (loadConfig s path) >>= fun _ => validateConfig s format path := rfl
  rw [hrun, run_perform_bind _ (value_loadConfig s hfile m), Trace.value_followedBy]
  exact exitCode_validateConfig s format path _

variable {action : Action}

theorem endsWithConfiguration_of_unusable (h : action.Examines) {problem : Problem}
    (hsettled : Configuration.settled path (s.file path) s.env = .error problem) (m : Moment) :
    EndsWithConfiguration ((Invocation.run ⟨path, level, format, action⟩ s).run m) := by
  have hvalue := value_loadConfig s hfile m
  rw [hsettled] at hvalue
  rw [run_eq_examine s format h, run_perform_bind _ hvalue]
  refine endsWithConfiguration_of_events ?_ rfl
  show ∀ entry ∈ (loadConfig s path m).entries ++ [], entry.IsEvent
  rw [List.append_nil]
  exact records_loadConfig s hfile m

variable (h : action.KeepsConfigured)

include h

theorem endsWithConfiguration_of_problem {problem : Problem}
    (hsettled : Configuration.settled path (s.file path) s.env = .error problem) (m : Moment) :
    EndsWithConfiguration ((Invocation.run ⟨path, level, format, action⟩ s).run m) :=
  endsWithConfiguration_of_unusable s level format hfile h.examines hsettled m

theorem run_of_settled {config : Configuration}
    (hsettled : Configuration.settled path (s.file path) s.env = .ok config) (m : Moment) :
    (Invocation.run ⟨path, level, format, action⟩ s).run m =
      (loadConfig s path m).followedBy
        ((examine s format action config).run (m.after (loadConfig s path m))) := by
  have hvalue := value_loadConfig s hfile m
  rw [hsettled] at hvalue
  rw [run_eq_examine s format h.examines, run_perform_bind _ hvalue, Except.mapError,
    run_ofExcept_bind]

theorem endsWithConfiguration_of_refused {config : Configuration} {fault : Fault}
    (hsettled : Configuration.settled path (s.file path) s.env = .ok config)
    (hcheck : config.settings.check = .error fault) (m : Moment) :
    EndsWithConfiguration ((Invocation.run ⟨path, level, format, action⟩ s).run m) := by
  rw [run_of_settled s level format hfile h hsettled, run_examine_of_refused s format h hcheck]
  refine endsWithConfiguration_of_events ?_ ?_
  · rw [Trace.entries_followedBy, List.append_nil]
    exact records_loadConfig s hfile m
  · rw [Trace.value_followedBy, Option.map_some, exitCodeOf_ofFault,
      Settings.kind_of_check_error hcheck]
    rfl

theorem reaches_of_passed {config : Configuration}
    (hsettled : Configuration.settled path (s.file path) s.env = .ok config)
    (hcheck : config.settings.check = .ok ()) (m : Moment) :
    ((Invocation.run ⟨path, level, format, action⟩ s).run m).Reaches := by
  rw [run_of_settled s level format hfile h hsettled, Trace.reaches_followedBy_iff]
  exact .inr ((reaches_examine_iff s format h config _).mpr hcheck)

end Verdict

/-- Validation agrees with use.  Where there is a file, validating it ends with the exit code 0 or
2, whatever the environment is.  It is 0 exactly if a verification, a wait or a check that replaces
none of the configured values goes on to connect to its target; and if it is 2, each of them ends
with 2 as well, before it asks or prints anything. -/
theorem validation_agrees_with_commands (s : Surroundings) {path : String}
    (hfile : s.file path ≠ .missing) (level level' : Option String) (format format' : Format)
    {action : Action} (h : action.KeepsConfigured) (m m' : Moment) :
    let code := ((Invocation.run ⟨path, level, format, .validateConfig⟩ s).run m).value.map
      exitCodeOf
    let t := (Invocation.run ⟨path, level', format', action⟩ s).run m'
    (code = some 0 ∨ code = some 2) ∧ (code = some 0 ↔ t.Reaches) ∧
      (code = some 2 → EndsWithConfiguration t) := by
  intro code t
  have hcode : code = _ := exitCode_validation s level format hfile m
  by_cases hproblem : configProblem? (Configuration.settled path (s.file path) s.env) = none
  · rw [if_pos hproblem] at hcode
    obtain ⟨config, hsettled, hcheck⟩ := (configProblem?_eq_none_iff _).mp hproblem
    have hreaches : t.Reaches := reaches_of_passed s level' format' hfile h hsettled hcheck m'
    exact ⟨.inl hcode, iff_of_true hcode hreaches, fun h => nomatch hcode.symm.trans h⟩
  · rw [if_neg hproblem] at hcode
    have hends : EndsWithConfiguration t := by
      cases hsettled : Configuration.settled path (s.file path) s.env with
      | error problem =>
          exact endsWithConfiguration_of_problem s level' format' hfile h hsettled m'
      | ok config =>
          cases hcheck : config.settings.check with
          | error fault =>
              exact endsWithConfiguration_of_refused s level' format' hfile h hsettled hcheck m'
          | ok _ =>
              exact absurd ((configProblem?_eq_none_iff _).mpr ⟨config, hsettled, hcheck⟩) hproblem
    refine ⟨.inr hcode, iff_of_false ?_ hends.not_reaches, fun _ => hends⟩
    exact fun h => nomatch hcode.symm.trans h

/-- Surroundings whose only file gives each package a second more than it may have, which the
environment takes back if it is so asked. -/
def longTimeoutSurroundings (reduced : Bool) : Surroundings where
  file _ := .bytes (Text.Utf8.encode "[verification]\npackage_timeout_secs = 3601\n")
  env name :=
    if reduced && name == "WORKBENCH_PROBE_VERIFICATION_PACKAGE_TIMEOUT_SECS" then some "3600"
    else none
  styled := false
  connect _ := Attempt.fail (.connection "refused")

theorem validation_of_long_timeout :
    let o : VerifyOptions :=
      { place := { namespaceName := none, pod := "nb", docker := true }, container := none
        packages := ["os"], timeout := none, noDiagnostics := false, runtime := none }
    let code (reduced : Bool) := ((Invocation.run ⟨"p.toml", none, .text, .validateConfig⟩
      (longTimeoutSurroundings reduced)).run ⟨0, []⟩).value.map exitCodeOf
    let t (reduced : Bool) := (Invocation.run ⟨"p.toml", none, .json, .verify o⟩
      (longTimeoutSurroundings reduced)).run ⟨0, []⟩
    (∀ reduced, (longTimeoutSurroundings reduced).file "p.toml" ≠ .missing) ∧
      (Action.verify o).KeepsConfigured ∧ code true = some 0 ∧ (t true).Reaches ∧
      code false = some 2 ∧ EndsWithConfiguration (t false) := by
  intro o code t
  have hfile : ∀ reduced, (longTimeoutSurroundings reduced).file "p.toml" ≠ .missing :=
    fun _ => File.noConfusion
  have hkeeps : (Action.verify o).KeepsConfigured := ⟨⟨by decide, by decide +kernel⟩, rfl, rfl⟩
  have hgood : code true = some 0 := by decide +kernel
  have hbad : code false = some 2 := by decide +kernel
  have hreduced := validation_agrees_with_commands (longTimeoutSurroundings true) (hfile true)
    none none .text .json hkeeps ⟨0, []⟩ ⟨0, []⟩
  have hlong := validation_agrees_with_commands (longTimeoutSurroundings false) (hfile false)
    none none .text .json hkeeps ⟨0, []⟩ ⟨0, []⟩
  exact ⟨hfile, hkeeps, hgood, hreduced.2.1.mp hgood, hbad, hlong.2.2 hbad⟩

end CommandLine

end NotebookCheck

import NotebookCheck.Proofs.Ledger
import NotebookCheck.Proofs.SnippetLimit

/-!
The whole course of a suite of checks, and what its report keeps of it.  The report has one outcome
for each name, so of several checks with one name only the last one that was run is told.
-/

namespace NotebookCheck

theorem Deadline.after_checkpoint (d : Deadline) (phase : String) (m : Moment) :
    m.after (d.checkpoint phase m) = m := by
  rw [checkpoint, Work.bind_of_value Work.clock _ m rfl]
  split <;> rfl

theorem Deadline.checkpoint_tells (d : Deadline) (phase : String) (m : Moment) :
    ∃ result, (d.checkpoint phase m).value = some (result, d.checked) ∧
      ∀ fault, result = .error fault → ∃ operation elapsed attempts,
        fault = .timeout operation elapsed d.budget attempts := by
  rw [checkpoint, Work.bind_of_value Work.clock _ m rfl]
  split
  · refine ⟨_, rfl, ?_⟩
    rintro _ ⟨⟩
    exact ⟨_, _, _, rfl⟩
  · refine ⟨_, rfl, ?_⟩
    rintro _ ⟨⟩

namespace Snippet

abbrev CheckResult : Type := SnippetCheck × SnippetOutcome

/-- Checks are run one after the other from a moment on, each of them once, with the given
outcomes, and it is the other moment when the last one is over. -/
inductive Ran (target : Target) (settings : Settings) (container : String) :
    Moment → List CheckResult → Moment → Prop where
  | nil (m : Moment) : Ran target settings container m [] m
  | cons {m stop : Moment} {check : SnippetCheck} {outcome : SnippetOutcome}
      {rest : List CheckResult}
      (hrun : ((runCheck target settings container check).run m).value = some (.ok outcome))
      (hrest : Ran target settings container
        (m.after ((runCheck target settings container check).run m)) rest stop) :
      Ran target settings container m ((check, outcome) :: rest) stop

def reported (results : List CheckResult) : List (String × SnippetOutcome) :=
  results.map fun result => (result.1.name, result.2)

section

variable {target : Target} {settings : Settings} {container : String}

theorem ran_of_runEach {deadline next : Deadline} {report final : SnippetReport}
    {checks : List SnippetCheck} {m : Moment}
    (h : (runEach target settings container deadline report checks m).value =
      some (.ok final, next)) :
    ∃ results, results.map (·.1) = checks ∧
      Ran target settings container m results
        (m.after (runEach target settings container deadline report checks m)) ∧
      final = (reported results).foldl (fun ledger entry => ledger.insert entry.1 entry.2)
        report := by
  induction checks generalizing deadline report m with
  | nil =>
      cases h
      exact ⟨[], rfl, .nil m, rfl⟩
  | cons check rest ih =>
      rw [runEach] at h ⊢
      obtain ⟨result, hresult, hlater⟩ := (Work.value_bind_eq_some_iff _ _ _ _).mp h
      rw [Work.bind_of_value _ _ _ hresult, Moment.after_followedBy]
      cases result with
      | error fault => cases hlater
      | ok outcome =>
          dsimp only at hlater ⊢
          obtain ⟨⟨passed, checked⟩, hchecked, hrest⟩ :=
            (Work.value_bind_eq_some_iff _ _ _ _).mp hlater
          -- A checkpoint takes no time and asks nothing, so the rest starts where the check ended.
          rw [Work.bind_of_value _ _ _ hchecked, Moment.after_followedBy,
            Deadline.after_checkpoint]
          rw [Deadline.after_checkpoint] at hrest
          cases passed with
          | error fault => cases hrest
          | ok _ =>
              obtain ⟨results, rfl, hran, rfl⟩ := ih hrest
              exact ⟨(check, outcome) :: results, rfl, .cons hresult hran, rfl⟩

theorem ran_of_runSuite {deadline next : Deadline} {report : SnippetReport}
    {checks : List SnippetCheck} {m : Moment}
    (h : (runSuite target settings container checks deadline m).value = some (.ok report, next)) :
    ∃ results, results.map (·.1) = checks ∧
      Ran target settings container m results
        (m.after (runSuite target settings container checks deadline m)) ∧
      report = Ledger.ofEntries (reported results) := by
  rw [runSuite, Work.note_bind] at h ⊢
  obtain ⟨⟨result, ended⟩, hresult, hlater⟩ := (Work.value_bind_eq_some_iff _ _ _ _).mp h
  rw [Moment.after_followedBy, Work.bind_of_value _ _ _ hresult, Moment.after_followedBy]
  cases result with
  | error fault => cases hlater
  | ok final =>
      cases hlater
      exact ran_of_runEach hresult

end

section

variable (target : Target) {settings : Settings} (container : String)
  (hinterval : 0 < settings.snippetRetryInterval)
include hinterval

theorem exists_outcome_run (code : String) {timeout : ℕ} (htimeout : 0 < timeout) (m : Moment) :
    ∃ outcome, ((run target settings container code timeout).run m).value =
      some (.ok outcome) := by
  obtain ⟨n, hlast⟩ := (poller settings hinterval htimeout).exists_isLast
    (tries target settings container code timeout) m
  obtain ⟨-, -, result, hvalue⟩ := run_tells hinterval htimeout hlast
  exact ⟨_, hvalue⟩

theorem exists_outcome_runCheck {check : SnippetCheck} (htimeout : 0 < check.timeout)
    (m : Moment) :
    ∃ outcome, ((runCheck target settings container check).outcome m).value =
      some (.ok outcome) := by
  obtain ⟨outcome, hvalue⟩ :=
    exists_outcome_run target container hinterval check.code htimeout m
  rw [Attempt.outcome, runCheck, Attempt.run_bind_of_ok _ _ _ hvalue]
  refine ⟨outcome, ?_⟩
  dsimp only
  split <;> rfl

theorem exists_result_runEach (checks : List SnippetCheck)
    (htimeouts : ∀ check ∈ checks, 0 < check.timeout) (deadline : Deadline)
    (report : SnippetReport) (m : Moment) :
    ∃ result next, (runEach target settings container deadline report checks m).value =
        some (result, next) ∧
      ∀ fault, result = .error fault → ∃ operation elapsed attempts,
        fault = .timeout operation elapsed deadline.budget attempts := by
  induction checks generalizing deadline report m with
  | nil => exact ⟨_, _, rfl, nofun⟩
  | cons check rest ih =>
      rw [List.forall_mem_cons] at htimeouts
      obtain ⟨outcome, houtcome⟩ :=
        exists_outcome_runCheck target container hinterval htimeouts.1 m
      rw [runEach, Work.bind_of_value _ _ _ houtcome]
      dsimp only
      obtain ⟨passed, hpassed, hdeadline⟩ := deadline.checkpoint_tells
        ("snippet " ++ check.name)
        (m.after ((runCheck target settings container check).outcome m))
      rw [Work.bind_of_value _ _ _ hpassed, Trace.value_followedBy, Trace.value_followedBy]
      cases passed with
      | error fault =>
          refine ⟨_, _, rfl, ?_⟩
          rintro _ ⟨⟩
          exact hdeadline fault rfl
      | ok _ => exact ih htimeouts.2 deadline.checked _ _

/-- A suite whose checks have positive limits is over at some time, and fails only if its deadline
has passed. -/
theorem exists_result_runSuite (checks : List SnippetCheck)
    (htimeouts : ∀ check ∈ checks, 0 < check.timeout) (deadline : Deadline) (m : Moment) :
    ∃ result next, (runSuite target settings container checks deadline m).value =
        some (result, next) ∧
      ∀ fault, result = .error fault → ∃ operation elapsed attempts,
        fault = .timeout operation elapsed deadline.budget attempts := by
  obtain ⟨result, next, hvalue, hfault⟩ := exists_result_runEach target container hinterval
    checks htimeouts deadline .empty m
  rw [runSuite, Work.note_bind, Trace.value_followedBy, Work.bind_of_value _ _ _ hvalue]
  cases result with
  | error fault => exact ⟨_, _, rfl, hfault⟩
  | ok report => exact ⟨_, _, rfl, nofun⟩

end

theorem names_reported (results : List CheckResult) :
    (reported results).map (·.1) = (results.map (·.1)).map (·.name) := by
  simp [reported, Function.comp_def]

/-- A result is the last one for its name. -/
def IsLastOf (results : List CheckResult) (name : String) (outcome : SnippetOutcome) : Prop :=
  ∃ before check after, results = before ++ (check, outcome) :: after ∧ check.name = name ∧
    ∀ later ∈ after, later.1.name ≠ name

theorem get?_ofEntries_reported_iff (results : List CheckResult) (name : String)
    (outcome : SnippetOutcome) :
    (Ledger.ofEntries (reported results)).get? name = some outcome ↔
      IsLastOf results name outcome := by
  rw [Ledger.get?_ofEntries_eq_some_iff]
  constructor
  · rintro ⟨_, _, hentries, hlast⟩
    obtain ⟨before, others, rfl, rfl, hothers⟩ := List.map_eq_append_iff.mp hentries
    obtain ⟨⟨check, found⟩, after, rfl, hresult, rfl⟩ := List.map_eq_cons_iff.mp hothers
    cases hresult
    refine ⟨before, check, after, rfl, rfl, fun later hlater hname => hlast ?_⟩
    exact List.mem_map.mpr ⟨_, List.mem_map_of_mem hlater, hname⟩
  · rintro ⟨before, check, after, rfl, rfl, hlast⟩
    refine ⟨reported before, reported after, by simp [reported], ?_⟩
    intro hname
    obtain ⟨_, hentry, hname⟩ := List.mem_map.mp hname
    obtain ⟨later, hlater, rfl⟩ := List.mem_map.mp hentry
    exact hlast later hlater hname

theorem mem_failed_iff (results : List CheckResult) (name : String) :
    name ∈ SnippetReport.failed (Ledger.ofEntries (reported results)) ↔
      ∃ outcome, IsLastOf results name outcome ∧ outcome.success = false := by
  simp only [SnippetReport.failed, Ledger.mem_namesWhere_iff (Ledger.nodup_names_ofEntries _),
    get?_ofEntries_reported_iff, Bool.not_eq_true']

theorem failed_of_nodup {results : List CheckResult}
    (h : ((results.map (·.1)).map (·.name)).Nodup) :
    SnippetReport.failed (Ledger.ofEntries (reported results)) =
      (results.filter fun result => !result.2.success).map (·.1.name) := by
  rw [← names_reported] at h
  rw [SnippetReport.failed, Ledger.ofEntries_of_nodup h, Ledger.namesWhere, reported,
    List.filter_map, List.map_map]
  rfl

/-- A suite that gives a report has run each of its checks once, in order, and has done nothing
else.  The report has each name once, in the order of their first checks, and tells of a failure
exactly if the last check of that name failed.  So if no two checks have one name, all that failed
are told, in order; but a check that passes makes an earlier failure of its name untold. -/
theorem runSuite_tells_last_of_each_name (target : Target) (settings : Settings)
    (container : String) (checks : List SnippetCheck) (deadline next : Deadline) (m : Moment)
    (report : SnippetReport)
    (h : (runSuite target settings container checks deadline m).value = some (.ok report, next)) :
    ∃ results, results.map (·.1) = checks ∧
      Ran target settings container m results
        (m.after (runSuite target settings container checks deadline m)) ∧
      report.names = (checks.map (·.name)).eraseDups ∧
      (∀ name, name ∈ SnippetReport.failed report ↔
        ∃ outcome, IsLastOf results name outcome ∧ outcome.success = false) ∧
      ((checks.map (·.name)).Nodup →
        SnippetReport.failed report =
          (results.filter fun result => !result.2.success).map (·.1.name)) := by
  obtain ⟨results, rfl, hran, rfl⟩ := ran_of_runSuite h
  refine ⟨results, rfl, hran, ?_, mem_failed_iff results, failed_of_nodup⟩
  rw [Ledger.names_ofEntries, names_reported]

def faultyTarget : Target where
  name := "nb-0"
  onSnapshot _ := .never
  onExecute _ container argv :=
    if argv = ["python", "-c", "boom"] then .after 0 (.error (.execution container "boom"))
    else .after 0 (.ok "")
  onLog _ _ _ := .never

theorem runSuite_of_distinct_names :
    let checks : List SnippetCheck := [⟨"a", "boom", 1000⟩, ⟨"b", "pass", 1000⟩]
    let t := runSuite faultyTarget {} "nb" checks { started := 0, budget := 60000 } ⟨0, []⟩
    ∃ report next results, t.value = some (.ok report, next) ∧ results.map (·.1) = checks ∧
      Ran faultyTarget {} "nb" ⟨0, []⟩ results (Moment.after ⟨0, []⟩ t) ∧
      SnippetReport.failed report = ["a"] ∧
      (results.filter fun result => !result.2.success).map (·.1.name) = ["a"] := by
  intro checks t
  have htold : t.value.map (fun ended => ended.1.toOption.map SnippetReport.failed) =
      some (some ["a"]) := by
    decide +kernel
  obtain ⟨⟨result, next⟩, hvalue, hresult⟩ := Option.map_eq_some_iff.mp htold
  cases result with
  | error fault => cases hresult
  | ok report =>
      have hfailed : SnippetReport.failed report = ["a"] := Option.some_inj.mp hresult
      obtain ⟨results, hchecks, hran, -, -, hdistinct⟩ :=
        runSuite_tells_last_of_each_name faultyTarget {} "nb" checks _ next ⟨0, []⟩ report hvalue
      exact ⟨report, next, results, hvalue, hchecks, hran, hfailed,
        (hdistinct (by decide)).symm.trans hfailed⟩

/-- Of two checks with one name the first fails and the second one passes, and no failure is
told. -/
theorem runSuite_loses_failure :
    let failing : SnippetCheck := ⟨"a", "boom", 1000⟩
    let passing : SnippetCheck := ⟨"a", "pass", 1000⟩
    let first := (runCheck faultyTarget {} "nb" failing).run ⟨0, []⟩
    let t := runSuite faultyTarget {} "nb" [failing, passing] { started := 0, budget := 60000 }
      ⟨0, []⟩
    ∃ outcome report next, first.value = some (.ok outcome) ∧ outcome.success = false ∧
      t.value = some (.ok report, next) ∧ SnippetReport.failed report = [] := by
  intro failing passing first t
  exact ⟨⟨false, "Pod execution failed: execution failed in container 'nb': boom",
      Number.Binary64.ofMillis 0⟩,
    ⟨[("a", ⟨true, "", Number.Binary64.ofMillis 0⟩)]⟩,
    { started := 0, budget := 60000, checkpoints := 2 },
    by decide +kernel, rfl, by decide +kernel, rfl⟩

end Snippet

end NotebookCheck

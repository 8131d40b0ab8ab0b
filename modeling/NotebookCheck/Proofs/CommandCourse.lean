import NotebookCheck.Proofs.CheckCourse
import NotebookCheck.Proofs.CommandEnd
import NotebookCheck.Proofs.OverrideBounds
import NotebookCheck.Proofs.PackageBatch
import NotebookCheck.Proofs.ReadinessCourse
import NotebookCheck.Proofs.SettingsBlame
import NotebookCheck.Proofs.SuiteCourse

namespace NotebookCheck

section

variable {α β ε : Type}

theorem Attempt.exists_of_value_bind {w : ExceptT ε Work α} {f : α → ExceptT ε Work β} {m : Moment}
    {b : β} (h : ((w >>= f).run m).value = some (.ok b)) :
    ∃ a, (w.run m).value = some (.ok a) ∧
      ((f a).run (m.after (w.run m))).value = some (.ok b) := by
  cases hvalue : (w.run m).value with
  | none =>
      rw [run_bind_of_none _ _ _ hvalue] at h
      cases h
  | some result =>
      cases result with
      | error fault =>
          rw [run_bind_of_error _ _ _ hvalue] at h
          cases h
      | ok a =>
          rw [run_bind_of_ok _ _ _ hvalue] at h
          exact ⟨a, rfl, h⟩

end

namespace CommandLine

section Ends

variable {ρ σ : Type} {flags : ρ → List Bool} {Ends : Ended → Prop} {m : Moment}

/-- What is done at the end of work without fail does not change how it ends. -/
theorem endedOf_bind_done {w : Attempt σ} {f : σ → Attempt ρ} {found : σ → List Bool}
    (hf : ∀ a m, ∃ r, ((f a).run m).value = some (.ok r) ∧ flags r = found a) (m : Moment) :
    endedOf flags ((w >>= f).run m).value = endedOf found (w.run m).value := by
  cases hvalue : (w.run m).value with
  | none =>
      rw [Attempt.run_bind_of_none _ _ _ hvalue]
      rfl
  | some result =>
      cases result with
      | error fault =>
          rw [Attempt.run_bind_of_error _ _ _ hvalue]
          rfl
      | ok a =>
          obtain ⟨r, hr, hflags⟩ := hf a (m.after (w.run m))
          rw [Attempt.run_bind_of_ok _ _ _ hvalue, Trace.value_followedBy, hr]
          exact congrArg Ended.reported hflags

/-- How work ends that begins with a check: as it should if the check fails, and if it does not. -/
theorem ends_ofExcept_bind {r : Except Fault σ} {f : σ → Attempt ρ}
    (hbad : ∀ fault, r = .error fault → Ends (.refused fault.kind.exitCode))
    (hgood : ∀ a, r = .ok a → Ends (endedOf flags ((f a).run m).value)) :
    Ends (endedOf flags ((Attempt.ofExcept r >>= f).run m).value) := by
  cases r with
  | error fault => exact hbad fault rfl
  | ok a =>
      rw [Attempt.run_ofExcept_bind_ok]
      exact hgood a rfl

theorem ends_check_bind {settings : Settings} {f : Unit → Attempt ρ}
    (hbad : ¬ settings.InBounds → Ends (.refused 2))
    (hgood : settings.InBounds → Ends (endedOf flags ((f ()).run m).value)) :
    Ends (endedOf flags ((Attempt.ofExcept settings.check >>= f).run m).value) := by
  refine ends_ofExcept_bind (fun fault hcheck => ?_) fun _ hcheck => ?_
  · rw [Settings.kind_of_check_error hcheck]
    refine hbad fun hbounds => ?_
    rw [(settings.check_eq_ok_iff).mpr hbounds] at hcheck
    cases hcheck
  · exact hgood (settings.check_eq_ok_iff.mp hcheck)

end Ends

section Reaching

variable (s : Surroundings) (config : Configuration) (place : Place) (m : Moment)

/-- How a command ends that reaches a target and then goes on with it in some way. -/
inductive ReachEnds (Goes : Target → Moment → Ended → Prop) : Ended → Prop where
  | unending (h : ((s.reach config place).run m).value = none) : ReachEnds Goes .unending
  | refused {fault : Fault} (h : ((s.reach config place).run m).value = some (.error fault)) :
      ReachEnds Goes (.refused fault.kind.exitCode)
  | reached {target : Target} {ended : Ended}
      (h : ((s.reach config place).run m).value = some (.ok target))
      (hends : Goes target (m.after ((s.reach config place).run m)) ended) : ReachEnds Goes ended

theorem reachEnds_bind {ρ : Type} {flags : ρ → List Bool} {f : Target → Attempt ρ}
    {Goes : Target → Moment → Ended → Prop}
    (h : ∀ target m', Goes target m' (endedOf flags ((f target).run m').value)) :
    ReachEnds s config place m Goes
      (endedOf flags ((s.reach config place >>= f).run m).value) := by
  cases hvalue : ((s.reach config place).run m).value with
  | none =>
      rw [Attempt.run_bind_of_none _ _ _ hvalue]
      exact .unending hvalue
  | some result =>
      cases result with
      | error fault =>
          rw [Attempt.run_bind_of_error _ _ _ hvalue]
          exact .refused hvalue
      | ok target =>
          rw [Attempt.run_bind_of_ok _ _ _ hvalue]
          exact .reached hvalue (h target _)

end Reaching

section Verifying

/-- How a verification ends with a target, once there is nothing wrong with the request. -/
inductive BatchEnds (settings : Settings) (container : String) (packages : List String)
    (timeout : ℕ) (target : Target) (m : Moment) : Ended → Prop where
  | unanswered (h : target.onSnapshot m = .never) :
      BatchEnds settings container packages timeout target m .unending
  | unfit {delay : ℕ} {answer : Except Fault (Option Snapshot)} {fault : Fault}
      (h : target.onSnapshot m = .after delay answer)
      (hfault : Packages.firstFault (Packages.targetFaults target.name container answer) =
        some fault) :
      BatchEnds settings container packages timeout target m (.refused fault.kind.exitCode)
  | unfinished {delay : ℕ} {answer : Except Fault (Option Snapshot)}
      (h : target.onSnapshot m = .after delay answer)
      (hfault : Packages.firstFault (Packages.targetFaults target.name container answer) = none)
      (hbatch : (Packages.verifyEach target settings container timeout .empty packages
        (Packages.batchStart m delay)).value = none) :
      BatchEnds settings container packages timeout target m .unending
  | verified {delay : ℕ} {answer : Except Fault (Option Snapshot)} {results : PackageReport}
      (h : target.onSnapshot m = .after delay answer)
      (hfault : Packages.firstFault (Packages.targetFaults target.name container answer) = none)
      (hbatch : (Packages.verifyEach target settings container timeout .empty packages
        (Packages.batchStart m delay)).value = some results) :
      BatchEnds settings container packages timeout target m
        (.reported (results.values.map (·.success)))

def VerifyOptions.limit (o : VerifyOptions) (config : Configuration) : ℕ :=
  Settings.millis (o.timeout.getD (o.settings config).packageTimeout)

inductive VerifyEnds (s : Surroundings) (config : Configuration) (o : VerifyOptions) (m : Moment) :
    Ended → Prop where
  | outOfBounds (h : ¬ (o.settings config).InBounds) : VerifyEnds s config o m (.refused 2)
  | unsound (h : (o.settings config).InBounds)
      (hrequest : ¬ (o.NamesPackages ∧ o.timeout ≠ some 0)) : VerifyEnds s config o m (.refused 4)
  | reaching {ended : Ended} (h : (o.settings config).InBounds)
      (hrequest : o.NamesPackages ∧ o.timeout ≠ some 0)
      (hends : ReachEnds s config o.place m (BatchEnds (o.settings config)
        (o.container.getD o.place.pod) o.packages (o.limit config)) ended) :
      VerifyEnds s config o m ended

def VerifyReport.flags (r : VerifyReport) : List Bool := r.results.values.map (·.success)

theorem batchEnds_verify {settings : Settings} {container : String} {packages : List String}
    {timeout : ℕ} (hrequest : Packages.checkRequest packages timeout = .ok ()) (target : Target)
    (m : Moment) :
    BatchEnds settings container packages timeout target m
      (endedOf (fun results : PackageReport => results.values.map (·.success))
        ((Packages.verify target settings container packages timeout).run m).value) := by
  rw [Packages.checkRequest_eq_ok_iff, ← Packages.firstFault_requestFaults_eq_none_iff] at hrequest
  cases hsnapshot : target.onSnapshot m with
  | never =>
      rw [Packages.run_verify_of_never settings hrequest hsnapshot]
      exact .unanswered hsnapshot
  | after delay answer =>
      cases hfault : Packages.firstFault (Packages.targetFaults target.name container answer) with
      | some fault =>
          rw [Packages.run_verify_of_targetFault settings hrequest hsnapshot hfault]
          exact .unfit hsnapshot hfault
      | none =>
          rw [Packages.run_verify_of_no_fault settings hrequest hsnapshot hfault]
          cases hbatch : (Packages.verifyEach target settings container timeout .empty packages
              (Packages.batchStart m delay)).value with
          | none => exact .unfinished hsnapshot hfault hbatch
          | some results => exact .verified hsnapshot hfault hbatch

theorem checkRequest_limit_eq_ok_iff {o : VerifyOptions} {config : Configuration}
    (h : (o.settings config).InBounds) :
    Packages.checkRequest o.packages (o.limit config) = .ok () ↔
      o.NamesPackages ∧ o.timeout ≠ some 0 := by
  have hpos := h.packageTimeout.1
  have htime : 0 < o.limit config ↔ o.timeout ≠ some 0 := by
    unfold VerifyOptions.limit
    cases o.timeout with
    | none => simp [Settings.millis, hpos]
    | some seconds =>
        simp only [Settings.millis, Option.getD_some, ne_eq, Option.some_inj]
        omega
  rw [Packages.checkRequest_eq_ok_iff, htime, VerifyOptions.NamesPackages]
  tauto

theorem kind_of_checkRequest_error {packages : List String} {timeout : ℕ} {fault : Fault}
    (h : Packages.checkRequest packages timeout = .error fault) : fault.kind = .validation := by
  rw [Packages.checkRequest_eq_ofFault] at h
  cases hfirst : Packages.firstFault (Packages.requestFaults packages timeout) with
  | none =>
      rw [hfirst] at h
      cases h
  | some first =>
      rw [hfirst] at h
      cases h
      obtain ⟨found, hmem, hsome⟩ := List.exists_of_findSome?_eq_some hfirst
      simp only [Packages.requestFaults, List.mem_cons, List.not_mem_nil, or_false] at hmem
      obtain rfl : found = some fault := hsome
      rcases hmem with h | h | h
      · split at h <;> cases h
        rfl
      · split at h <;> cases h
        rfl
      · obtain ⟨package, -, rfl⟩ := Option.map_eq_some_iff.mp h.symm
        rfl

def VerifyOptions.reportOf (o : VerifyOptions) (results : PackageReport) : VerifyReport where
  target := o.place.pod
  container := o.container.getD o.place.pod
  results := results

theorem examinePackages_eq (s : Surroundings) (config : Configuration) (o : VerifyOptions) :
    examinePackages s config o =
      Attempt.ofExcept (o.settings config).check >>= fun _ =>
      Attempt.ofExcept (Packages.checkRequest o.packages (o.limit config)) >>= fun _ =>
      s.reach config o.place >>= fun target =>
      Packages.verify target (o.settings config) (o.container.getD o.place.pod) o.packages
        (o.limit config) >>= fun results => do
      Work.note .info "verification finished"
        [("summary", .text (PackageReport.summaryLine results))]
      return o.reportOf results := rfl

theorem verifyEnds_examinePackages (s : Surroundings) (config : Configuration) (o : VerifyOptions)
    (m : Moment) :
    VerifyEnds s config o m
      (endedOf VerifyReport.flags ((examinePackages s config o).run m).value) := by
  rw [examinePackages_eq]
  refine ends_check_bind .outOfBounds fun hbounds => ?_
  refine ends_ofExcept_bind (fun fault hrequest => ?_) fun _ hrequest => ?_
  · rw [kind_of_checkRequest_error hrequest]
    refine .unsound hbounds fun hsound => ?_
    rw [← checkRequest_limit_eq_ok_iff hbounds, hrequest] at hsound
    cases hsound
  · refine .reaching hbounds ((checkRequest_limit_eq_ok_iff hbounds).mp hrequest) ?_
    refine reachEnds_bind s config o.place m fun target m' => ?_
    rw [endedOf_bind_done fun results _ => ⟨o.reportOf results, rfl, rfl⟩]
    exact batchEnds_verify hrequest target m'

theorem newline_not_mem_of_isPackageName {name : String} (h : isPackageName name = true) :
    '\n' ∉ name.toList := by
  obtain ⟨first, rest, hname, hfirst, hrest⟩ := (isPackageName_iff name).mp h
  have hstart : ¬ IsIdentifierStart '\n' := by
    unfold IsIdentifierStart
    decide
  have hpart : ¬ IsIdentifierPart '\n' := by
    unfold IsIdentifierPart IsIdentifierStart
    decide
  rw [hname, List.mem_cons, not_or]
  exact ⟨fun heq => hstart (heq ▸ hfirst), fun hmem => hpart (hrest _ hmem)⟩

/-- The report of a verification is about the place that it was asked about, and none of its
packages takes more than a line. -/
theorem of_value_examinePackages {s : Surroundings} {config : Configuration} {o : VerifyOptions}
    {m : Moment} {r : VerifyReport}
    (h : ((examinePackages s config o).run m).value = some (.ok r)) :
    r.target = o.place.pod ∧ r.container = o.container.getD o.place.pod ∧
      ∀ e ∈ r.results.entries, '\n' ∉ e.1.toList := by
  rw [examinePackages_eq] at h
  obtain ⟨_, -, h⟩ := Attempt.exists_of_value_bind h
  obtain ⟨_, hrequest, h⟩ := Attempt.exists_of_value_bind h
  obtain ⟨target, -, h⟩ := Attempt.exists_of_value_bind h
  obtain ⟨results, hresults, h⟩ := Attempt.exists_of_value_bind h
  obtain rfl : o.reportOf results = r := Except.ok.inj (Option.some.inj h)
  refine ⟨rfl, rfl, fun e he => ?_⟩
  obtain ⟨runs, hruns, -, hentries, -⟩ := Packages.exists_runs_of_verify hresults
  have hpassed : Packages.checkRequest o.packages (o.limit config) = .ok () :=
    Option.some.inj hrequest
  obtain ⟨-, -, hnames⟩ := (Packages.checkRequest_eq_ok_iff _ _).mp hpassed
  change e ∈ results.entries at he
  rw [hentries] at he
  obtain ⟨run, hrun, rfl⟩ := List.mem_map.mp he
  have hpackage : run.2.package ∈ o.packages.eraseDups := by
    rw [← hruns]
    exact List.mem_map_of_mem hrun
  exact newline_not_mem_of_isPackageName (hnames _ (List.mem_eraseDups.mp hpackage))

end Verifying

section Waiting

/-- How a wait ends with a target.  A target that does not become ready is reported too. -/
inductive ReadinessEnds (settings : Settings) (target : Target) (m : Moment) : Ended → Prop where
  | unending (h : ((Readiness.waitUntilReady target settings).run m).value = none) :
      ReadinessEnds settings target m .unending
  | ready {moments : List Moment} {stop : Moment} {snapshot : Snapshot}
      (h : ((Readiness.waitUntilReady target settings).run m).value ≠ none)
      (hwaits : Readiness.Waits target settings m moments stop (.ok snapshot)) :
      ReadinessEnds settings target m (.reported [true])
  | notReady {moments : List Moment} {stop : Moment} {cause : Fault}
      (h : ((Readiness.waitUntilReady target settings).run m).value ≠ none)
      (hwaits : Readiness.Waits target settings m moments stop (.error cause)) :
      ReadinessEnds settings target m (.reported [false])

inductive WaitEnds (s : Surroundings) (config : Configuration) (o : WaitOptions) (m : Moment) :
    Ended → Prop where
  | outOfBounds (h : ¬ (o.settings config).InBounds) : WaitEnds s config o m (.refused 2)
  | reaching {ended : Ended} (h : (o.settings config).InBounds)
      (hends : ReachEnds s config o.place m (ReadinessEnds (o.settings config)) ended) :
      WaitEnds s config o m ended

def WaitReport.flags (r : WaitReport) : List Bool := [r.ready]

theorem readinessEnds_waitReport {settings : Settings} (h : settings.InBounds) (target : Target)
    (m : Moment) :
    ReadinessEnds settings target m
      (endedOf WaitReport.flags ((waitReport target settings).run m).value) := by
  cases hvalue : ((Readiness.waitUntilReady target settings).run m).value with
  | none =>
      have hreport : (waitReport target settings).run m = _ := Work.bind_of_none _ _ m hvalue
      rw [hreport]
      exact .unending hvalue
  | some result =>
      have hreport : (waitReport target settings).run m = _ := Work.bind_of_value _ _ m hvalue
      have hends : ((Readiness.waitUntilReady target settings).run m).value ≠ none := by simp [hvalue]
      obtain ⟨moments, stop, outcome, hwaits, hok, herror⟩ :=
        Readiness.waitUntilReady_tells h hvalue
      rw [hreport, Trace.value_followedBy]
      cases outcome with
      | ok snapshot =>
          obtain ⟨rfl, -⟩ := hok snapshot rfl
          exact .ready hends hwaits
      | error cause =>
          obtain ⟨answer, -, rfl, -⟩ := herror cause rfl
          exact .notReady hends hwaits

theorem waitEnds_examineReadiness (s : Surroundings) (config : Configuration) (o : WaitOptions)
    (m : Moment) :
    WaitEnds s config o m
      (endedOf WaitReport.flags ((examineReadiness s config o).run m).value) := by
  refine ends_check_bind .outOfBounds fun hbounds => ?_
  exact .reaching hbounds (reachEnds_bind s config o.place m (readinessEnds_waitReport hbounds))

end Waiting

section Checking

/-- How a check ends with a target, under its deadline. -/
inductive PhasesEnd (settings : Settings) (container : String) (checks : List SnippetCheck)
    (d : Deadline) (target : Target) (m : Moment) : Ended → Prop where
  | stuck {before : List TimedPhase} {phase : TimedPhase}
      (hphase : before ++ [phase] <+: checkPhaseList target settings container checks)
      (hbefore : AllInTime d before m)
      (hstops : StopsAt d (before.length + 1) phase (whenOver before m) none) :
      PhasesEnd settings container checks d target m .unending
  | stopped {before : List TimedPhase} {phase : TimedPhase} {fault : Fault}
      (hphase : before ++ [phase] <+: checkPhaseList target settings container checks)
      (hbefore : AllInTime d before m)
      (hstops : StopsAt d (before.length + 1) phase (whenOver before m) (some fault)) :
      PhasesEnd settings container checks d target m (.refused fault.kind.exitCode)
  | finished {results : List Snippet.CheckResult} {stop : Moment}
      (h : AllInTime d (checkPhaseList target settings container checks) m)
      (hchecks : results.map (·.1) = checks)
      (hran : Snippet.Ran target settings container
        (whenOver [readinessPhase target settings, connectionPhase target settings container] m)
        results stop) :
      PhasesEnd settings container checks d target m (.reported (results.map (·.2.success)))

inductive CheckEnds (s : Surroundings) (config : Configuration) (o : CheckOptions) (m : Moment) :
    Ended → Prop where
  | unknownSuite (h : o.suite ∉ ["standard", "data-science", "all"]) :
      CheckEnds s config o m (.refused 4)
  | outOfBounds (h : o.suite ∈ ["standard", "data-science", "all"])
      (hbounds : ¬ (o.settings config).InBounds) : CheckEnds s config o m (.refused 2)
  | reaching {checks : List SnippetCheck} {ended : Ended}
      (h : SnippetSuite.ofName o.suite = .ok checks) (hbounds : (o.settings config).InBounds)
      (hends : ReachEnds s config o.place m (PhasesEnd (o.settings config)
        (o.container.getD o.place.pod) checks
        { started := m.now, budget := Settings.millis (o.settings config).overallTimeout })
        ended) :
      CheckEnds s config o m ended

def CheckReport.flags (r : CheckReport) : List Bool := r.results.values.map (·.success)

section

variable {settings : Settings} {container : String} {checks : List SnippetCheck} {m : Moment}

theorem after_passCheckpoint (d : Deadline) (phase : String) (m : Moment) :
    m.after ((passCheckpoint d phase).run m) = m :=
  (resembles_checkpoint d phase m).1.symm.trans (d.after_checkpoint phase m)

/-- A check that comes to a report has run each snippet of its suite, from the moment on at which a
command could be run. -/
theorem ran_of_checkPhases {target : Target} {d d' : Deadline} {report : SnippetReport}
    (h : ((checkPhases target settings container checks d).run m).value =
      some (.ok (report, d'))) :
    ∃ results stop, results.map (·.1) = checks ∧
      Snippet.Ran target settings container
        (whenOver [readinessPhase target settings, connectionPhase target settings container] m)
        results stop ∧
      report = Ledger.ofEntries (Snippet.reported results) := by
  obtain ⟨_, -, h⟩ := Attempt.exists_of_value_bind h
  obtain ⟨_, -, h⟩ := Attempt.exists_of_value_bind h
  obtain ⟨_, -, h⟩ := Attempt.exists_of_value_bind h
  obtain ⟨d₂, -, h⟩ := Attempt.exists_of_value_bind h
  obtain ⟨⟨result, last⟩, hsuite, hlast⟩ := (Work.value_bind_eq_some_iff _ _ _ _).mp h
  have hready := (Attempt.resembles_bind_unit (Readiness.waitUntilReady target settings) m).1
  rw [after_passCheckpoint, after_passCheckpoint, hready] at hsuite
  change (Snippet.runSuite target settings container checks d₂ (whenOver
    [readinessPhase target settings, connectionPhase target settings container] m)).value =
      some (result, last) at hsuite
  cases result with
  | error fault => cases hlast
  | ok found =>
      cases hlast
      obtain ⟨results, hchecks, hran, hreport⟩ := Snippet.ran_of_runSuite hsuite
      exact ⟨results, _, hchecks, hran, hreport⟩

theorem ofEntries_reported {results : List Snippet.CheckResult}
    (hnames : ((results.map (·.1)).map (·.name)).Nodup) :
    Ledger.ofEntries (Snippet.reported results) = ⟨Snippet.reported results⟩ := by
  refine Ledger.ofEntries_of_nodup ?_
  rwa [Snippet.names_reported]

theorem phasesEnd_checkPhases (hnames : (checks.map (·.name)).Nodup) (started budget : ℕ)
    (target : Target) (m : Moment) :
    PhasesEnd settings container checks { started, budget } target m
      (endedOf (fun ended : SnippetReport × Deadline => ended.1.values.map (·.success))
        ((checkPhases target settings container checks { started, budget }).run m).value) := by
  have hcourse := runPhases_course (checkPhaseList target settings container checks)
    { started, budget } 0 m
  have hcounted : afterChecks { started, budget } 0 = { started, budget } := rfl
  rw [hcounted, ← (resembles_checkPhases target settings container checks _ m).2] at hcourse
  generalize hresult : ((checkPhases target settings container checks
    { started, budget }).run m).value.map (Except.map Prod.snd) = result at hcourse
  generalize m.after _ = ended at hcourse
  cases hcourse with
  | finished h =>
      obtain ⟨⟨report, d'⟩, hreport⟩ := finished_of_map_finished hresult
      obtain ⟨results, stop, hchecks, hran, rfl⟩ := ran_of_checkPhases hreport
      rw [← hchecks] at hnames
      have hflags : (Ledger.ofEntries (Snippet.reported results)).values.map (·.success) =
          results.map (·.2.success) := by
        rw [ofEntries_reported hnames, Ledger.values, Snippet.reported, List.map_map, List.map_map]
        rfl
      rw [hreport, endedOf, hflags]
      exact .finished h hchecks hran
  | @stopped before phase stop hphase hbefore hstops =>
      rw [Nat.zero_add] at hstops
      rw [stopped_of_map_stopped hresult]
      cases stop with
      | none => exact .stuck hphase hbefore hstops
      | some fault => exact .stopped hphase hbefore hstops

end

theorem ofName_tells (name : String) :
    (name ∉ ["standard", "data-science", "all"] ∧
        ∃ message, SnippetSuite.ofName name = .error (.validation message)) ∨
      name ∈ ["standard", "data-science", "all"] ∧
        ∃ checks, SnippetSuite.ofName name = .ok checks ∧ (checks.map (·.name)).Nodup ∧
          ∀ check ∈ checks, '\n' ∉ check.name.toList := by
  unfold SnippetSuite.ofName
  split
  · exact .inr ⟨by decide, _, rfl, by decide, by decide⟩
  · exact .inr ⟨by decide, _, rfl, by decide, by decide⟩
  · exact .inr ⟨by decide, _, rfl, by decide, by decide⟩
  · next hstandard hscience hall =>
      refine .inl ⟨?_, _, rfl⟩
      simp only [List.mem_cons, List.not_mem_nil, or_false, not_or]
      exact ⟨hstandard, hscience, hall⟩

theorem value_finish (d : Deadline) (m : Moment) :
    (d.finish m).value = some (d.elapsedAt m.now) := by
  rw [Deadline.finish, Work.bind_of_value _ _ m rfl, Trace.value_followedBy]
  split <;> rfl

def CheckOptions.reportOf (o : CheckOptions) (results : SnippetReport) (elapsed : ℕ) :
    CheckReport where
  target := o.place.pod
  container := o.container.getD o.place.pod
  suite := o.suite
  results := results
  seconds := Number.Binary64.ofMillis elapsed

def CheckOptions.finishReport (o : CheckOptions) (results : SnippetReport) (d : Deadline) :
    Attempt CheckReport := do
  let elapsed ← d.finish
  return o.reportOf results elapsed

theorem value_finishReport (o : CheckOptions) (results : SnippetReport) (d : Deadline)
    (m : Moment) : ((o.finishReport results d).run m).value =
      some (.ok (o.reportOf results (d.elapsedAt m.now))) := by
  rw [CheckOptions.finishReport, Attempt.run_lift_bind, Work.bind_of_value _ _ m (value_finish d m)]
  rfl

theorem endedOf_finishReport (o : CheckOptions) (phases : Attempt (SnippetReport × Deadline))
    (m : Moment) :
    endedOf CheckReport.flags
        ((phases >>= fun ended => o.finishReport ended.1 ended.2).run m).value =
      endedOf (fun ended => ended.1.values.map (·.success)) (phases.run m).value := by
  refine endedOf_bind_done (fun ended m' => ?_) m
  exact ⟨_, value_finishReport o ended.1 ended.2 m', rfl⟩

theorem examineSnippets_eq (s : Surroundings) (config : Configuration) (o : CheckOptions) :
    examineSnippets s config o =
      Attempt.ofExcept (SnippetSuite.ofName o.suite) >>= fun checks =>
      Attempt.ofExcept (o.settings config).check >>= fun _ =>
      (liftM (Deadline.start (Settings.millis (o.settings config).overallTimeout)) :
        Attempt Deadline) >>= fun d =>
      s.reach config o.place >>= fun target =>
      checkPhases target (o.settings config) (o.container.getD o.place.pod) checks d >>=
        fun ended => o.finishReport ended.1 ended.2 := rfl

theorem checkEnds_examineSnippets (s : Surroundings) (config : Configuration) (o : CheckOptions)
    (m : Moment) :
    CheckEnds s config o m
      (endedOf CheckReport.flags ((examineSnippets s config o).run m).value) := by
  rw [examineSnippets_eq]
  refine ends_ofExcept_bind (fun fault hsuite => ?_) fun checks hsuite => ?_
  · obtain ⟨hunknown, message, herror⟩ | ⟨-, checks, hchecks, -⟩ := ofName_tells o.suite
    · rw [hsuite] at herror
      cases herror
      exact .unknownSuite hunknown
    · rw [hsuite] at hchecks
      cases hchecks
  obtain ⟨-, message, herror⟩ | ⟨hknown, _, hchecks, hnames, -⟩ := ofName_tells o.suite
  · rw [hsuite] at herror
    cases herror
  rw [hsuite] at hchecks
  cases hchecks
  refine ends_check_bind (.outOfBounds hknown) fun hbounds => .reaching hsuite hbounds ?_
  rw [Attempt.run_lift_bind, Work.bind_of_value _ _ m rfl, Trace.value_followedBy]
  refine reachEnds_bind s config o.place m fun target m' => ?_
  rw [endedOf_finishReport]
  exact phasesEnd_checkPhases hnames _ _ target m'

/-- The report of a check is about what was asked for, and none of the names in it takes more than
a line. -/
theorem of_value_examineSnippets {s : Surroundings} {config : Configuration} {o : CheckOptions}
    {m : Moment} {r : CheckReport}
    (h : ((examineSnippets s config o).run m).value = some (.ok r)) :
    r.target = o.place.pod ∧ r.container = o.container.getD o.place.pod ∧ r.suite = o.suite ∧
      ∀ e ∈ r.results.entries, '\n' ∉ e.1.toList := by
  rw [examineSnippets_eq] at h
  obtain ⟨checks, hsuite, h⟩ := Attempt.exists_of_value_bind h
  obtain ⟨_, -, h⟩ := Attempt.exists_of_value_bind h
  obtain ⟨d, -, h⟩ := Attempt.exists_of_value_bind h
  obtain ⟨target, -, h⟩ := Attempt.exists_of_value_bind h
  obtain ⟨⟨results, d'⟩, hphases, h⟩ := Attempt.exists_of_value_bind h
  rw [value_finishReport] at h
  obtain rfl := Except.ok.inj (Option.some.inj h)
  refine ⟨rfl, rfl, rfl, fun e he => ?_⟩
  obtain ⟨-, message, herror⟩ | ⟨-, _, hchecks, hdistinct, hnames⟩ := ofName_tells o.suite
  · cases (Option.some.inj hsuite).symm.trans herror
  obtain rfl := Except.ok.inj ((Option.some.inj hsuite).symm.trans hchecks)
  obtain ⟨found, stop, rfl, -, rfl⟩ := ran_of_checkPhases hphases
  change e ∈ (Ledger.ofEntries (Snippet.reported found)).entries at he
  rw [ofEntries_reported hdistinct] at he
  obtain ⟨result, hresult, rfl⟩ := List.mem_map.mp he
  exact hnames _ (List.mem_map_of_mem hresult)

end Checking

end CommandLine

end NotebookCheck

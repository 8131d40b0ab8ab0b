import NotebookCheck.Packages
import NotebookCheck.Proofs.Ledger
import NotebookCheck.Proofs.Reply

namespace NotebookCheck.Packages

open Number

section

variable (target : Target) (settings : Settings) (container : String) (timeout : Nat)

def importRequest (package : String) : Request :=
  .execute container [settings.runtime, "-c", "import " ++ package]

def importReply (package : String) (m : Moment) : Reply String :=
  target.onExecute m container [settings.runtime, "-c", "import " ++ package]

/-- An import that starts at a moment is answered well, and no later than the timeout. -/
def Imported (package : String) (m : Moment) : Prop :=
  ∃ delay stdout,
    importReply target settings container package m = .after delay (.ok stdout) ∧
      delay ≤ timeout

/-- The fault of an import: the one it is answered with, or a timeout if no answer is in time. -/
def importFault? (package : String) (m : Moment) : Option Fault :=
  match (importReply target settings container package m).answerWithin timeout with
  | some (.ok _) => none
  | some (.error fault) => some fault
  | none => some (.timeout ("import " ++ package) timeout timeout 1)

theorem imported_iff_fault_eq_none (package : String) (m : Moment) :
    Imported target settings container timeout package m ↔
      importFault? target settings container timeout package m = none := by
  constructor
  · rintro ⟨delay, stdout, hreply, hdelay⟩
    rw [importFault?, (Reply.answerWithin_eq_some_iff timeout _ (.ok stdout)).mpr
      ⟨delay, hreply, hdelay⟩]
  · intro h
    unfold importFault? at h
    split at h
    · rename_i stdout hanswer
      obtain ⟨delay, hreply, hdelay⟩ :=
        (Reply.answerWithin_eq_some_iff timeout _ _).mp hanswer
      exact ⟨delay, stdout, hreply, hdelay⟩
    · cases h
    · cases h

theorem exists_answer_of_imported {package : String} {m : Moment}
    (h : Imported target settings container timeout package m) :
    ∃ stdout, (importReply target settings container package m).answerWithin timeout =
      some (.ok stdout) := by
  obtain ⟨delay, stdout, hreply, hdelay⟩ := h
  exact ⟨stdout, (Reply.answerWithin_eq_some_iff timeout _ _).mpr ⟨delay, hreply, hdelay⟩⟩

theorem exists_fault_of_not_imported {package : String} {m : Moment}
    (h : ¬ Imported target settings container timeout package m) :
    ∃ fault, importFault? target settings container timeout package m = some fault := by
  cases hfault : importFault? target settings container timeout package m with
  | none =>
      exact absurd ((imported_iff_fault_eq_none target settings container timeout
        package m).mpr hfault) h
  | some fault => exact ⟨fault, rfl⟩

instance (package : String) (m : Moment) :
    Decidable (Imported target settings container timeout package m) :=
  decidable_of_iff _ (imported_iff_fault_eq_none target settings container timeout package m).symm

def importEnd (package : String) (m : Moment) : Moment :=
  ⟨m.now + (importReply target settings container package m).waitWithin timeout,
    ⟨m.now, importRequest settings container package⟩ :: m.past⟩

/-- The requests of an import that starts at a moment: after a failure the log is asked for, if
diagnostics are wanted. -/
def importAsked (package : String) (m : Moment) : List (Moment × Request) :=
  (m, importRequest settings container package) ::
    if settings.collectDiagnostics ∧
        ¬ Imported target settings container timeout package m then
      [(importEnd target settings container timeout package m,
        .log container settings.logTailLines)]
    else []

end

def importedResult (settings : Settings) (package : String) (seconds : Binary64)
    (stdout : String) : PackageResult where
  package := package
  success := true
  errorMessage := none
  command := (Command.importing settings.runtime package).display
  seconds := seconds
  logs := none
  stdout := stdout
  stderr := ""

def failedResult (settings : Settings) (package : String) (seconds : Binary64) (fault : Fault)
    (logs : Option String) : PackageResult where
  package := package
  success := false
  errorMessage := some fault.message
  command := (Command.importing settings.runtime package).display
  seconds := seconds
  logs := logs
  stdout := ""
  stderr := fault.message

def diagnose (target : Target) (settings : Settings) (container : String) :
    Work (Option String) :=
  if settings.collectDiagnostics then some <$> collectLogs target settings container
  else pure none

def importEntries (target : Target) (settings : Settings) (container : String) (timeout : Nat)
    (package : String) (m : Moment) : List Entry :=
  [.event ⟨.debug, "executing",
      [("command", .text (Command.importing settings.runtime package).display)]⟩,
    .call ⟨m.now, importRequest settings container package⟩,
    .sample .importSeconds
      (Binary64.ofMillis ((importReply target settings container package m).waitWithin timeout))]

def importedEvent (package : String) (seconds : Binary64) : Event where
  level := .info
  message := "import successful"
  fields := [("package", .text package), ("elapsed_secs", .seconds seconds)]

def failedEvent (package : String) (fault : Fault) : Event where
  level := .warn
  message := "import failed"
  fields := [("package", .text package), ("error", .text fault.message)]

section

variable {target : Target} {settings : Settings} {container package : String} {timeout : Nat}
  {m : Moment}

theorem executeWithin_timed (target : Target) (settings : Settings) (container : String)
    (timeout : Nat) (package : String) (m : Moment) :
    (target.executeWithin timeout container
        (Command.importing settings.runtime package).argv).timed m =
      ⟨some ((importReply target settings container package m).answerWithin timeout,
          (importReply target settings container package m).waitWithin timeout),
        (importReply target settings container package m).waitWithin timeout,
        [.call ⟨m.now, importRequest settings container package⟩]⟩ := by
  simp only [Work.timed, Target.executeWithin, Target.awaitWithin_apply]
  rfl

theorem answer_getD_of_fault {fault : Fault}
    (h : importFault? target settings container timeout package m = some fault) :
    ((importReply target settings container package m).answerWithin timeout).getD
        (.error (.timeout ("import " ++ package)
          ((importReply target settings container package m).waitWithin timeout) timeout 1)) =
      .error fault := by
  unfold importFault? at h
  split at h
  · cases h
  · rename_i hanswer
    cases h
    rw [hanswer, Option.getD_some]
  · rename_i hanswer
    cases h
    rw [hanswer, Option.getD_none, Reply.waitWithin_of_answerWithin_eq_none hanswer]

theorem verifyOne_of_answer_ok {stdout : String}
    (h : (importReply target settings container package m).answerWithin timeout =
      some (.ok stdout)) :
    let elapsed := (importReply target settings container package m).waitWithin timeout
    verifyOne target settings container package timeout m =
      ⟨some (importedResult settings package (Binary64.ofMillis elapsed) stdout), elapsed,
        importEntries target settings container timeout package m ++
          [.count (.packageImports true),
            .event (importedEvent package (Binary64.ofMillis elapsed))]⟩ := by
  intro elapsed
  have hexecute := executeWithin_timed target settings container timeout package m
  rw [h] at hexecute
  rw [verifyOne, Work.note_bind, Work.bind_of_value _ _ _ (congrArg Trace.value hexecute)]
  simp only [hexecute, Option.getD_some]
  rw [Work.record_bind _ _ _ rfl, Work.record_bind _ _ _ rfl, Work.note_bind]
  simp only [Trace.followedBy, Work.pure_apply, Nat.zero_add, Nat.add_zero]
  rfl

theorem verifyOne_of_fault {fault : Fault}
    (h : importFault? target settings container timeout package m = some fault) :
    let elapsed := (importReply target settings container package m).waitWithin timeout
    let log := diagnose target settings container
      (importEnd target settings container timeout package m)
    verifyOne target settings container package timeout m =
      ⟨log.value.map (failedResult settings package (Binary64.ofMillis elapsed) fault),
        elapsed + log.elapsed,
        importEntries target settings container timeout package m ++
          [.count (.packageImports false), .event (failedEvent package fault)] ++
            log.entries⟩ := by
  intro elapsed log
  have hexecute := executeWithin_timed target settings container timeout package m
  rw [verifyOne, Work.note_bind, Work.bind_of_value _ _ _ (congrArg Trace.value hexecute)]
  simp only [hexecute]
  rw [Work.record_bind _ _ _ rfl, answer_getD_of_fault h]
  simp only []
  rw [Work.record_bind _ _ _ rfl, Work.note_bind]
  by_cases hwanted : settings.collectDiagnostics = true
  · have hlog : log = (some <$> collectLogs target settings container)
        (importEnd target settings container timeout package m) := by
      simp only [log, diagnose, hwanted, if_true]
    rw [hlog, if_pos hwanted, Work.bind_pure_apply]
    simp only [Trace.followedBy, Nat.zero_add]
    rfl
  · have hlog : log = ⟨some none, 0, []⟩ := by
      simp only [log, diagnose, hwanted]
      rfl
    rw [hlog, if_neg hwanted, Work.bind_pure_apply]
    simp only [Trace.followedBy, Nat.zero_add, Work.pure_apply]
    rfl

def logText : Except Fault String → String
  | .ok logs => logs
  | .error _ => logPlaceholder

def logNote (container : String) : Except Fault String → List Entry
  | .ok _ => []
  | .error fault =>
      [.count .diagnosticFailures,
        .event ⟨.warn, "failed to collect pod logs",
          [("container", .text container), ("error", .text fault.message)]⟩]

theorem collectLogs_of_after {delay : Nat} {answer : Except Fault String}
    (h : target.onLog m container settings.logTailLines = .after delay answer) :
    collectLogs target settings container m =
      ⟨some (logText answer), delay,
        .call ⟨m.now, .log container settings.logTailLines⟩ :: logNote container answer⟩ := by
  have hlog : (target.log container settings.logTailLines).outcome m =
      ⟨some answer, delay, [.call ⟨m.now, .log container settings.logTailLines⟩]⟩ := by
    rw [Attempt.outcome, Target.log, Target.run_await, h]
  rw [collectLogs, Work.bind_of_value _ _ _ (congrArg Trace.value hlog), hlog]
  cases answer with
  | ok logs => rfl
  | error fault => rfl

theorem collectLogs_of_never
    (h : target.onLog m container settings.logTailLines = .never) :
    collectLogs target settings container m =
      ⟨none, 0, [.call ⟨m.now, .log container settings.logTailLines⟩]⟩ := by
  have hlog : (target.log container settings.logTailLines).outcome m =
      ⟨none, 0, [.call ⟨m.now, .log container settings.logTailLines⟩]⟩ := by
    rw [Attempt.outcome, Target.log, Target.run_await, h]
  rw [collectLogs, Work.bind_of_none _ _ _ (congrArg Trace.value hlog), hlog]

theorem calls_collectLogs (target : Target) (settings : Settings) (container : String)
    (m : Moment) :
    (collectLogs target settings container m).calls =
      [⟨m.now, .log container settings.logTailLines⟩] := by
  cases h : target.onLog m container settings.logTailLines with
  | never => rw [collectLogs_of_never h]; rfl
  | after delay answer =>
      rw [collectLogs_of_after h]
      cases answer <;> rfl

theorem asked_diagnose (target : Target) (settings : Settings) (container : String)
    (m : Moment) :
    (diagnose target settings container m).asked m =
      if settings.collectDiagnostics then [(m, .log container settings.logTailLines)]
      else [] := by
  unfold diagnose
  split
  · rw [Work.map_apply, Trace.asked]
    change Trace.askedAfter m.past (collectLogs target settings container m).calls = _
    rw [calls_collectLogs]
    rfl
  · rfl

theorem asked_verifyOne (target : Target) (settings : Settings) (container : String)
    (timeout : Nat) (package : String) (m : Moment) :
    (verifyOne target settings container package timeout m).asked m =
      importAsked target settings container timeout package m := by
  unfold importAsked
  by_cases himported : Imported target settings container timeout package m
  · obtain ⟨stdout, hanswer⟩ :=
      exists_answer_of_imported target settings container timeout himported
    rw [verifyOne_of_answer_ok hanswer, if_neg fun h => h.2 himported]
    rfl
  · obtain ⟨fault, hfault⟩ :=
      exists_fault_of_not_imported target settings container timeout himported
    rw [verifyOne_of_fault hfault]
    -- The import is the one request before those of the diagnosis, which starts at its end.
    change (m, importRequest settings container package) ::
      (diagnose target settings container
        (importEnd target settings container timeout package m)).asked
          (importEnd target settings container timeout package m) = _
    rw [asked_diagnose]
    simp only [himported, not_false_eq_true, and_true]

/-- What the result of a package tells about the replies to its import, which starts at a
moment. -/
structure Tells (target : Target) (settings : Settings) (container : String) (timeout : Nat)
    (package : String) (m : Moment) (r : PackageResult) : Prop where
  package_eq : r.package = package
  command_eq : r.command = (Command.importing settings.runtime package).display
  success_iff : r.success = true ↔ Imported target settings container timeout package m
  seconds_eq : r.seconds = Binary64.ofMillis
    ((importReply target settings container package m).waitWithin timeout)
  of_success : r.success = true →
    r.errorMessage = none ∧ r.logs = none ∧ r.stderr = "" ∧
      ∃ delay, importReply target settings container package m = .after delay (.ok r.stdout)
  of_failure : r.success = false →
    r.errorMessage = some r.stderr ∧ r.stdout = "" ∧
      ((∃ delay fault,
          importReply target settings container package m = .after delay (.error fault) ∧
            delay ≤ timeout ∧ r.stderr = fault.message) ∨
        (∀ delay answer,
          importReply target settings container package m = .after delay answer →
            timeout < delay) ∧
          r.stderr = (Fault.timeout ("import " ++ package) timeout timeout 1).message)
  logs_of_failure : r.success = false →
    if settings.collectDiagnostics then
      ∃ delay answer,
        target.onLog (importEnd target settings container timeout package m) container
            settings.logTailLines = .after delay answer ∧
          r.logs = some (logText answer)
    else r.logs = none

theorem diagnose_value {logs : Option String}
    (h : (diagnose target settings container m).value = some logs) :
    if settings.collectDiagnostics then
      ∃ delay answer,
        target.onLog m container settings.logTailLines = .after delay answer ∧
          logs = some (logText answer)
    else logs = none := by
  unfold diagnose at h
  split
  · rename_i hwanted
    rw [if_pos hwanted, Work.map_apply] at h
    cases hreply : target.onLog m container settings.logTailLines with
    | never =>
        rw [collectLogs_of_never hreply] at h
        cases h
    | after delay answer =>
        rw [collectLogs_of_after hreply] at h
        cases h
        exact ⟨delay, answer, rfl, rfl⟩
  · rename_i hwanted
    rw [if_neg hwanted] at h
    cases h
    rfl

theorem message_of_fault {fault : Fault}
    (h : importFault? target settings container timeout package m = some fault) :
    (∃ delay found,
        importReply target settings container package m = .after delay (.error found) ∧
          delay ≤ timeout ∧ fault.message = found.message) ∨
      (∀ delay answer,
        importReply target settings container package m = .after delay answer →
          timeout < delay) ∧
        fault.message = (Fault.timeout ("import " ++ package) timeout timeout 1).message := by
  unfold importFault? at h
  split at h
  · cases h
  · rename_i hanswer
    cases h
    obtain ⟨delay, hreply, hdelay⟩ :=
      (Reply.answerWithin_eq_some_iff timeout _ _).mp hanswer
    exact .inl ⟨delay, fault, hreply, hdelay, rfl⟩
  · rename_i hanswer
    cases h
    exact .inr ⟨(Reply.answerWithin_eq_none_iff timeout _).mp hanswer, rfl⟩

theorem tells_of_verifyOne {r : PackageResult}
    (h : (verifyOne target settings container package timeout m).value = some r) :
    Tells target settings container timeout package m r := by
  by_cases himported : Imported target settings container timeout package m
  · obtain ⟨stdout, hanswer⟩ :=
      exists_answer_of_imported target settings container timeout himported
    rw [verifyOne_of_answer_ok hanswer] at h
    cases h
    obtain ⟨delay, hreply, -⟩ := (Reply.answerWithin_eq_some_iff timeout _ _).mp hanswer
    exact {
      package_eq := rfl
      command_eq := rfl
      success_iff := iff_of_true rfl himported
      seconds_eq := rfl
      of_success := fun _ => ⟨rfl, rfl, rfl, delay, hreply⟩
      of_failure := fun hfailed => by cases hfailed
      logs_of_failure := fun hfailed => by cases hfailed }
  · obtain ⟨fault, hfault⟩ :=
      exists_fault_of_not_imported target settings container timeout himported
    rw [verifyOne_of_fault hfault] at h
    obtain ⟨logs, hlogs, rfl⟩ := Option.map_eq_some_iff.mp h
    exact {
      package_eq := rfl
      command_eq := rfl
      success_iff := iff_of_false Bool.false_ne_true himported
      seconds_eq := rfl
      of_success := fun hdone => by cases hdone
      of_failure := fun _ => ⟨rfl, rfl, message_of_fault hfault⟩
      logs_of_failure := fun _ => diagnose_value hlogs }

theorem isSome_value_verifyOne (package : String) (timeout : Nat) (m : Moment)
    (hlogs : ∀ m', target.onLog m' container settings.logTailLines ≠ .never) :
    (verifyOne target settings container package timeout m).value.isSome = true := by
  by_cases himported : Imported target settings container timeout package m
  · obtain ⟨stdout, hanswer⟩ :=
      exists_answer_of_imported target settings container timeout himported
    rw [verifyOne_of_answer_ok hanswer]
    rfl
  · obtain ⟨fault, hfault⟩ :=
      exists_fault_of_not_imported target settings container timeout himported
    rw [verifyOne_of_fault hfault, Option.isSome_map]
    unfold diagnose
    split
    · rw [Work.map_apply, Option.isSome_map]
      cases hreply : target.onLog (importEnd target settings container timeout package m)
          container settings.logTailLines with
      | never => exact absurd hreply (hlogs _)
      | after delay answer => rw [collectLogs_of_after hreply]; rfl
    · rfl

theorem verifyEach_of_known {report : PackageReport}
    (rest : List String) (h : package ∈ report.names) :
    verifyEach target settings container timeout report (package :: rest) m =
      (Work.note .debug "duplicate package skipped" [("package", .text package)] >>= fun _ =>
        verifyEach target settings container timeout report rest) m := by
  rw [verifyEach, if_pos ((Ledger.isSome_get?_iff package report).mpr h)]

theorem verifyEach_of_new {report : PackageReport}
    (rest : List String) (h : package ∉ report.names) :
    verifyEach target settings container timeout report (package :: rest) m =
      (verifyOne target settings container package timeout >>= fun result =>
        verifyEach target settings container timeout (report.add result) rest) m := by
  rw [verifyEach, if_neg fun hknown => h ((Ledger.isSome_get?_iff package report).mp hknown)]

theorem importAsked_isPrefix_verifyEach {report : PackageReport} (rest : List String)
    (h : package ∉ report.names) :
    importAsked target settings container timeout package m <+:
      (verifyEach target settings container timeout report (package :: rest) m).asked m := by
  rw [verifyEach_of_new rest h, ← asked_verifyOne]
  exact Work.asked_isPrefix_bind _ _ m

end

end NotebookCheck.Packages

import NotebookCheck.Proofs.PackageName
import NotebookCheck.Proofs.SessionAccount

namespace NotebookCheck

variable {α β : Type}

def Target.refusesLog (target : Target) (asked : Moment × Request) : Bool :=
  match asked.2 with
  | .log container lines =>
      match target.onLog asked.1 container lines with
      | .after _ (.error _) => true
      | _ => false
  | _ => false

def Entry.IsLogless : Entry → Prop
  | call ⟨_, .log _ _⟩ | count .diagnosticFailures => False
  | call _ | count _ | sample _ _ | event _ | connect _ | print _ => True

theorem Entry.isLogless_of_isPollNote (operation : String) (entry : Entry)
    (h : entry.IsPollNote operation) : entry.IsLogless := by
  cases entry with
  | event _ => trivial
  | count c =>
      cases c with
      | pollAttempts _ | pollTimeouts _ => trivial
      | packageImports _ | diagnosticFailures | snippetChecks _ => exact h.elim
  | call _ | sample _ _ | connect _ | print _ => exact h.elim

/-- Work counts the logs that it asks a target for and that cannot be read. -/
def Work.CountsLogs (target : Target) (w : Work α) : Prop :=
  ∀ m, (w m).counted .diagnosticFailures = ((w m).asked m).countP target.refusesLog

section

variable {target : Target}

theorem Work.CountsLogs.of_logless {w : Work α} (hw : w.Records Entry.IsLogless) :
    w.CountsLogs target := by
  intro m
  have hcounted : (w m).counted .diagnosticFailures = 0 :=
    List.count_eq_zero.mpr fun hentry => hw m _ hentry
  have hasked : ((w m).asked m).countP target.refusesLog = 0 := by
    rw [List.countP_eq_zero]
    intro asked hmem
    have hlogless := hw.of_mem_asked hmem
    obtain ⟨m', request⟩ := asked
    cases request with
    | log container lines => exact hlogless.elim
    | snapshot | execute _ _ => exact Bool.false_ne_true
  rw [hcounted, hasked]

theorem Work.CountsLogs.bind {w : Work α} {f : α → Work β} (hw : w.CountsLogs target)
    (hf : ∀ a, (f a).CountsLogs target) : (w >>= f).CountsLogs target := by
  intro m
  cases hvalue : (w m).value with
  | none =>
      rw [bind_of_none w f m hvalue]
      exact hw m
  | some a =>
      rw [bind_of_value w f m hvalue, Trace.counted_followedBy, Trace.asked_followedBy,
        List.countP_append, hw m, hf a]

theorem Work.CountsLogs.map {w : Work α} (hw : w.CountsLogs target) (f : α → β) :
    Work.CountsLogs target (f <$> w) := by
  intro m
  rw [map_apply]
  exact hw m

theorem Attempt.countsLogs_bind {w : Attempt α} {f : α → Attempt β}
    (hw : Work.CountsLogs target w.run) (hf : ∀ a, Work.CountsLogs target (f a).run) :
    Work.CountsLogs target (w >>= f).run := by
  rw [ExceptT.run_bind]
  refine hw.bind fun result => ?_
  cases result with
  | error fault => exact .of_logless (Work.records_pure _)
  | ok a => exact hf a

end

namespace Packages

variable (target : Target) (settings : Settings) (container : String)

theorem countsLogs_collectLogs : (collectLogs target settings container).CountsLogs target := by
  intro m
  have hasked : (collectLogs target settings container m).asked m =
      [(m, .log container settings.logTailLines)] := by
    rw [Trace.asked, calls_collectLogs]
    rfl
  rw [hasked, List.countP_singleton]
  cases hreply : target.onLog m container settings.logTailLines with
  | never =>
      rw [collectLogs_of_never hreply]
      simp [Trace.counted, Target.refusesLog, hreply]
  | after delay answer =>
      rw [collectLogs_of_after hreply]
      cases answer <;> simp [Trace.counted, Target.refusesLog, hreply, logNote]

theorem logless_note (level : Level) (message : String) (fields : List (String × FieldValue)) :
    (Work.note level message fields).Records Entry.IsLogless :=
  Work.records_record trivial

theorem countsLogs_verifyOne (package : String) (timeout : ℕ) :
    (verifyOne target settings container package timeout).CountsLogs target := by
  refine (Work.CountsLogs.of_logless (logless_note _ _ _)).bind fun _ => ?_
  refine (Work.CountsLogs.of_logless (Work.records_timed
    (Target.records_awaitWithin timeout (fun _ => trivial) _))).bind fun answered => ?_
  refine Work.CountsLogs.bind (.of_logless (Work.records_record ?_)) fun _ => ?_
  · trivial
  split
  · refine .of_logless (Work.records_bind (Work.records_record trivial) fun _ => ?_)
    exact Work.records_bind (logless_note _ _ _) fun _ => Work.records_pure _
  · refine Work.CountsLogs.bind (.of_logless (Work.records_record ?_)) fun _ => ?_
    · trivial
    refine (Work.CountsLogs.of_logless (logless_note _ _ _)).bind fun _ => ?_
    split
    · exact ((countsLogs_collectLogs target settings container).map some).bind
        fun _ => .of_logless (Work.records_pure _)
    · exact .of_logless (Work.records_bind (Work.records_pure none) fun _ => Work.records_pure _)

theorem countsLogs_verifyEach (timeout : ℕ) (report : PackageReport) (packages : List String) :
    (verifyEach target settings container timeout report packages).CountsLogs target := by
  induction packages generalizing report with
  | nil => exact .of_logless (Work.records_pure report)
  | cons package rest ih =>
      rw [verifyEach]
      split
      · exact (Work.CountsLogs.of_logless (logless_note _ _ _)).bind fun _ => ih report
      · exact (countsLogs_verifyOne target settings container package timeout).bind
          fun result => ih (report.add result)

theorem countsLogs_verify (packages : List String) (timeout : ℕ) :
    (verify target settings container packages timeout).outcome.CountsLogs target := by
  have hnote : ∀ level message fields, Work.CountsLogs target
      (liftM (Work.note level message fields) : Attempt Unit).run :=
    fun level message fields =>
      .of_logless (Attempt.records_lift (logless_note level message fields))
  refine Attempt.countsLogs_bind (.of_logless (Attempt.records_ofExcept _)) fun _ => ?_
  refine Attempt.countsLogs_bind
    (.of_logless (records_checkTarget target container fun _ => trivial)) fun _ => ?_
  refine Attempt.countsLogs_bind (hnote _ _ _) fun _ => ?_
  refine Attempt.countsLogs_bind
    ((countsLogs_verifyEach target settings container timeout .empty packages).map Except.ok)
    fun report => ?_
  exact Attempt.countsLogs_bind (hnote _ _ _) fun _ => .of_logless (Attempt.records_pure report)

end Packages

namespace Step

def target : Step → Target
  | waitUntilReady target _ | waitForConnection target _ _ | verify target _ _ _ _
  | snippet target _ _ _ _ | suite target _ _ _ _ => target

def isWait : Step → Bool
  | waitUntilReady _ _ => true
  | _ => false

/-- The number of logs that are asked for in an examination which starts at a moment, and that
cannot be read. -/
def failedLogs (step : Step) (m : Moment) : ℕ :=
  ((step.work m).asked m).countP step.target.refusesLog

theorem counted_of_isWait {step : Step} (h : step.isWait = true) (m : Moment) :
    (step.work m).counted .diagnosticFailures = 0 := by
  cases step with
  | waitUntilReady target settings =>
      -- No entry of a wait is this count, also where it asks for a log.
      have hrecords := Readiness.records_waitUntilReady
        (P := (· ≠ .count .diagnosticFailures)) target settings ?_ (by simp) (by simp)
      · exact List.count_eq_zero.mpr fun hentry => Work.records_map _ hrecords m _ hentry rfl
      · rintro operation _ hnote rfl
        exact hnote
  | waitForConnection _ _ _ | verify _ _ _ _ _ | snippet _ _ _ _ _ | suite _ _ _ _ _ => cases h

theorem counted_of_not_isWait {step : Step} (h : step.isWait = false) (m : Moment) :
    (step.work m).counted .diagnosticFailures = step.failedLogs m := by
  suffices hcounts : step.work.CountsLogs step.target from hcounts m
  cases step with
  | waitUntilReady _ _ => cases h
  | waitForConnection target container settings =>
      exact .map (.of_logless (Readiness.records_waitForConnection target container settings
        Entry.isLogless_of_isPollNote fun _ => trivial)) _
  | verify target settings container packages timeout =>
      exact (Packages.countsLogs_verify target settings container packages timeout).map _
  | snippet target settings container code timeout =>
      exact .map (.of_logless (Snippet.records_run target settings container
        Entry.isLogless_of_isPollNote (fun _ => trivial) code timeout fun _ => trivial)) _
  | suite target settings container checks deadline =>
      exact .map (.of_logless (Snippet.records_runSuite target settings container
        Entry.isLogless_of_isPollNote (fun _ => trivial) checks deadline fun _ _ _ => trivial)) _

end Step

def begun : List Step → Moment → List (Step × Moment)
  | [], _ => []
  | step :: rest, m =>
      (step, m) ::
        match (step.work m).value with
        | some _ => begun rest (m.after (step.work m))
        | none => []

/-- The number of logs that cannot be read in examinations, each of which starts at a moment. -/
def failedLogs (steps : List (Step × Moment)) : ℕ :=
  (steps.map fun begun => begun.1.failedLogs begun.2).sum

theorem failedLogs_append (first second : List (Step × Moment)) :
    failedLogs (first ++ second) = failedLogs first + failedLogs second := by
  rw [failedLogs, List.map_append, List.sum_append]
  rfl

theorem failedLogs_filter_add (p : Step × Moment → Bool) (steps : List (Step × Moment)) :
    failedLogs (steps.filter fun begun => !p begun) + failedLogs (steps.filter p) =
      failedLogs steps := by
  induction steps with
  | nil => rfl
  | cons begun rest ih =>
      cases hp : p begun <;> simp [failedLogs, hp] at ih ⊢ <;> omega

theorem failedLogs_eq_zero_iff (steps : List (Step × Moment)) :
    failedLogs steps = 0 ↔ ∀ begun ∈ steps, begun.1.failedLogs begun.2 = 0 := by
  induction steps with
  | nil => simp [failedLogs]
  | cons begun rest ih => rw [List.forall_mem_cons, ← ih]; exact Nat.add_eq_zero_iff

/-- What is counted in a session are the logs that cannot be read in examinations other than waits
for readiness. -/
theorem counted_session (steps : List Step) (m : Moment) :
    (session steps m).counted .diagnosticFailures =
      failedLogs ((begun steps m).filter fun begun => !begun.1.isWait) := by
  induction steps generalizing m with
  | nil => rfl
  | cons step rest ih =>
      have hfirst : (step.work m).counted .diagnosticFailures =
          failedLogs ([(step, m)].filter fun begun => !begun.1.isWait) := by
        cases hwait : step.isWait with
        | true => simp [step.counted_of_isWait hwait, failedLogs, hwait]
        | false => simp [step.counted_of_not_isWait hwait, failedLogs, hwait]
      rw [session, begun]
      cases hvalue : (step.work m).value with
      | none =>
          rw [Work.bind_of_none _ _ _ hvalue]
          exact hfirst
      | some outcome =>
          rw [Work.bind_of_value _ _ _ hvalue, Work.bind_pure_apply, Trace.counted_followedBy,
            hfirst]
          change _ + (session rest (m.after (step.work m))).counted .diagnosticFailures =
            failedLogs (([(step, m)] ++ begun rest (m.after (step.work m))).filter _)
          rw [List.filter_append, failedLogs_append, ih]

/-- Not all logs that cannot be read are counted.  Whatever examinations there are in a session, on
whatever targets, the count falls short of them by those that a wait for readiness asked for; so it
is right exactly if no wait has come across any. -/
theorem counted_diagnosticFailures_session (steps : List Step) (m : Moment) :
    let t := session steps m
    let started := begun steps m
    t.counted .diagnosticFailures + failedLogs (started.filter fun begun => begun.1.isWait) =
        failedLogs started ∧
      (t.counted .diagnosticFailures = failedLogs started ↔
        ∀ begun ∈ started, begun.1.isWait = true → begun.1.failedLogs begun.2 = 0) := by
  intro t started
  have hsum : t.counted .diagnosticFailures +
      failedLogs (started.filter fun begun => begun.1.isWait) = failedLogs started := by
    rw [counted_session]
    exact failedLogs_filter_add (fun begun => begun.1.isWait) started
  refine ⟨hsum, ?_⟩
  rw [← hsum, eq_comm, Nat.add_eq_left, failedLogs_eq_zero_iff]
  simp only [List.mem_filter, and_imp]

def mutedTarget : Target where
  name := "nb-0"
  onSnapshot _ := .after 0 (.ok (some {
    name := "nb-0", phase := .pending, containers := [{ name := "nb" }] }))
  onExecute _ _ _ := .never
  onLog _ _ _ := .after 0 (.error (.api "gone"))

/-- A wait for readiness comes across a log that cannot be read, and nothing is counted. -/
theorem diagnosticFailures_of_wait :
    let steps : List Step :=
      [.waitUntilReady mutedTarget { readinessTimeout := 1, pollInterval := 1 }]
    (session steps ⟨0, []⟩).counted .diagnosticFailures = 0 ∧
      failedLogs (begun steps ⟨0, []⟩) = 1 := by
  decide +kernel

end NotebookCheck

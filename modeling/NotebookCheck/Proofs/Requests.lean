import NotebookCheck.Proofs.Records
import NotebookCheck.Readiness
import NotebookCheck.Sidecar
import NotebookCheck.Snippet

namespace NotebookCheck

variable {P : Entry → Prop} {R : Request → Prop}

theorem Entry.forall_asks_of_isPollNote (operation : String) (entry : Entry)
    (h : entry.IsPollNote operation) : entry.Asks R := h.asks

namespace Diagnostics

theorem records_failureDetails (target : Target) (s : Snapshot) (lines : ℕ)
    (hevent : ∀ e : Event, e.IsPlain → P (.event e))
    (hlog : ∀ time container, P (.call ⟨time, .log container lines⟩)) :
    (failureDetails target s lines).Records P := by
  unfold failureDetails
  split
  · exact Work.records_pure _
  · refine Work.records_bind (Target.records_await (fun time => hlog time _) _) fun answer => ?_
    cases answer with
    | ok logs =>
        dsimp only
        split
        · exact Work.records_pure _
        · exact Work.records_pure _
    | error fault =>
        exact Work.records_bind (Work.records_note hevent (by simp) _ _)
          fun _ => Work.records_pure _

end Diagnostics

namespace Readiness

theorem records_waitForExistence (target : Target) (poller : Poller)
    (hnote : ∀ entry : Entry, entry.IsPollNote poller.operation → P entry)
    (hsnapshot : ∀ time, P (.call ⟨time, .snapshot⟩)) :
    Work.Records P (waitForExistence target poller).run :=
  poller.records_runEach hnote fun _ =>
    Attempt.records_bind (Target.records_await hsnapshot _) fun _ => Attempt.records_pure _

theorem records_waitForCondition (target : Target) (kind status : String) (poller : Poller)
    (hnote : ∀ entry : Entry, entry.IsPollNote poller.operation → P entry)
    (hsnapshot : ∀ time, P (.call ⟨time, .snapshot⟩)) :
    Work.Records P (waitForCondition target kind status poller).run :=
  poller.records_runEach hnote fun _ =>
    Attempt.records_bind (Target.records_await hsnapshot _) fun _ => Attempt.records_pure _

theorem records_describeFailure (target : Target) (settings : Settings) (cause : Fault)
    (hevent : ∀ e : Event, e.IsPlain → P (.event e))
    (hsnapshot : ∀ time, P (.call ⟨time, .snapshot⟩))
    (hlog : ∀ time container, P (.call ⟨time, .log container settings.readinessLogLines⟩)) :
    (describeFailure target settings cause).Records P := by
  refine Work.records_bind (Target.records_await hsnapshot _) fun answer => ?_
  split
  · exact Work.records_bind (Work.records_note hevent (by simp) _ _)
      fun _ => Work.records_pure _
  · exact Work.records_pure _
  · exact Work.records_bind (Diagnostics.records_failureDetails target _ _ hevent hlog)
      fun _ => Work.records_pure _

theorem records_conclude (target : Target) (settings : Settings) (result : Except Fault Snapshot)
    (hevent : ∀ e : Event, e.IsPlain → P (.event e))
    (hsnapshot : ∀ time, P (.call ⟨time, .snapshot⟩))
    (hlog : ∀ time container, P (.call ⟨time, .log container settings.readinessLogLines⟩)) :
    (conclude target settings result).Records P := by
  cases result with
  | ok snapshot =>
      exact Work.records_bind (Work.records_note hevent (by simp) _ _)
        fun _ => Work.records_pure _
  | error cause =>
      refine Work.records_bind
        (records_describeFailure target settings cause hevent hsnapshot hlog) fun failure => ?_
      exact Work.records_bind (Work.records_note hevent (by simp) _ _)
        fun _ => Work.records_pure _

theorem records_waitUntilReady (target : Target) (settings : Settings)
    (hnote : ∀ operation, ∀ entry : Entry, entry.IsPollNote operation → P entry)
    (hsnapshot : ∀ time, P (.call ⟨time, .snapshot⟩))
    (hlog : ∀ time container, P (.call ⟨time, .log container settings.readinessLogLines⟩)) :
    Work.Records P (waitUntilReady target settings).run := by
  refine Attempt.records_bind (Attempt.records_ofExcept _) fun existence => ?_
  refine Attempt.records_bind (Attempt.records_ofExcept _) fun ready => ?_
  refine Work.records_bind ?_ fun result =>
    records_conclude target settings result (fun _ _ => hnote "" _ trivial) hsnapshot hlog
  exact Attempt.records_bind (records_waitForExistence target existence (hnote _) hsnapshot)
    fun _ => records_waitForCondition target _ _ ready (hnote _) hsnapshot

theorem asks_waitUntilReady (target : Target) (settings : Settings) (hsnapshot : R .snapshot)
    (hlog : ∀ container, R (.log container settings.readinessLogLines)) :
    Work.Asks R (waitUntilReady target settings).run :=
  records_waitUntilReady target settings Entry.forall_asks_of_isPollNote (fun _ => hsnapshot)
    fun _ => hlog

theorem records_waitForConnection (target : Target) (container : String) (settings : Settings)
    (hnote : ∀ operation, ∀ entry : Entry, entry.IsPollNote operation → P entry)
    (hprobe : ∀ time, P (.call ⟨time, .execute container connectionProbe.argv⟩)) :
    Work.Records P (waitForConnection target container settings).run := by
  refine Attempt.records_bind (Attempt.records_ofExcept _) fun poller => ?_
  refine Attempt.records_bind (Poller.records_runEach _ (hnote _) fun _ => ?_) fun _ =>
    Attempt.records_lift (Work.records_record (hnote "" _ trivial))
  exact Attempt.records_bind (Target.records_await hprobe _) fun _ => Attempt.records_pure _

theorem asks_waitForConnection (target : Target) (container : String) (settings : Settings)
    (hprobe : R (.execute container connectionProbe.argv)) :
    Work.Asks R (waitForConnection target container settings).run :=
  records_waitForConnection target container settings Entry.forall_asks_of_isPollNote
    fun _ => hprobe

end Readiness

namespace Deadline

theorem asks_start (budget : ℕ) : Work.Asks R (start budget) :=
  Work.records_bind Work.records_clock fun _ => Work.records_pure _

theorem records_checkpoint (d : Deadline) (phase : String) (hevent : ∀ e, P (.event e)) :
    (d.checkpoint phase).Records P := by
  refine Work.records_bind Work.records_clock fun now => ?_
  split
  · exact Work.records_bind (Work.records_record (hevent _)) fun _ => Work.records_pure _
  · exact Work.records_pure _

theorem asks_checkpoint (d : Deadline) (phase : String) : Work.Asks R (d.checkpoint phase) :=
  d.records_checkpoint phase fun _ => trivial

theorem asks_finish (d : Deadline) : Work.Asks R d.finish := by
  refine Work.records_bind Work.records_clock fun now => ?_
  split
  · exact Work.records_bind (Work.asks_note _ _ _) fun _ => Work.records_pure _
  · exact Work.records_bind (Work.asks_note _ _ _) fun _ => Work.records_pure _

end Deadline

namespace Snippet

theorem records_tryOnce (target : Target) (container : String) (argv : List String)
    (timeout : ℕ) (hrun : ∀ time, P (.call ⟨time, .execute container argv⟩)) :
    Work.Records P (tryOnce target container argv timeout).run := by
  refine Work.records_bind (Target.records_awaitWithin timeout hrun _) fun answer => ?_
  split
  · exact Work.records_pure _
  · exact Work.records_pure _
  · exact Work.records_pure _

section

variable (target : Target) (settings : Settings) (container : String)
  (hnote : ∀ operation, ∀ entry : Entry, entry.IsPollNote operation → P entry)
  (hcount : ∀ success, P (.count (.snippetChecks success)))
include hnote hcount

theorem records_run (code : String) (timeout : ℕ)
    (hrun : ∀ time, P (.call ⟨time, .execute container [settings.runtime, "-c", code]⟩)) :
    Work.Records P (run target settings container code timeout).run := by
  refine Attempt.records_bind (Attempt.records_ofExcept _) fun poller => ?_
  refine Attempt.records_bind (Attempt.records_lift (Work.records_record (hnote "" _ trivial)))
    fun _ => ?_
  refine Attempt.records_bind (Attempt.records_lift (Work.records_timed
    (Poller.records_runEach _ (hnote _) fun _ =>
      records_tryOnce target container _ timeout hrun))) fun ended => ?_
  exact Attempt.records_bind (Attempt.records_lift (Work.records_record (hcount _)))
    fun _ => Attempt.records_pure _

theorem records_runCheck (check : SnippetCheck)
    (hrun : ∀ time,
      P (.call ⟨time, .execute container [settings.runtime, "-c", check.code]⟩)) :
    Work.Records P (runCheck target settings container check).run := by
  have hevent : ∀ e, P (.event e) := fun _ => hnote "" _ trivial
  refine Attempt.records_bind (records_run target settings container hnote hcount _ _ hrun)
    fun outcome => ?_
  split
  · exact Attempt.records_bind (Attempt.records_lift (Work.records_record (hevent _)))
      fun _ => Attempt.records_pure outcome
  · exact Attempt.records_bind (Attempt.records_lift (Work.records_record (hevent _)))
      fun _ => Attempt.records_pure outcome

theorem records_runEach (deadline : Deadline) (report : SnippetReport)
    (checks : List SnippetCheck)
    (hrun : ∀ check ∈ checks, ∀ time,
      P (.call ⟨time, .execute container [settings.runtime, "-c", check.code]⟩)) :
    (runEach target settings container deadline report checks).Records P := by
  induction checks generalizing deadline report with
  | nil => exact Work.records_pure _
  | cons check rest ih =>
      rw [List.forall_mem_cons] at hrun
      refine Work.records_bind
        (records_runCheck target settings container hnote hcount check hrun.1) fun outcome => ?_
      cases outcome with
      | error fault => exact Work.records_pure _
      | ok outcome =>
          refine Work.records_bind
            (deadline.records_checkpoint _ fun _ => hnote "" _ trivial) fun checked => ?_
          split
          · exact Work.records_pure _
          · exact ih _ _ hrun.2

theorem records_runSuite (checks : List SnippetCheck) (deadline : Deadline)
    (hrun : ∀ check ∈ checks, ∀ time,
      P (.call ⟨time, .execute container [settings.runtime, "-c", check.code]⟩)) :
    (runSuite target settings container checks deadline).Records P := by
  have hevent : ∀ e, P (.event e) := fun _ => hnote "" _ trivial
  refine Work.records_bind (Work.records_record (hevent _)) fun _ => ?_
  refine Work.records_bind
    (records_runEach target settings container hnote hcount deadline .empty checks hrun)
    fun ended => ?_
  dsimp only
  split
  · exact Work.records_pure _
  · exact Work.records_bind (Work.records_record (hevent _)) fun _ => Work.records_pure _

end

theorem asks_runSuite (target : Target) (settings : Settings) (container : String)
    (checks : List SnippetCheck) (deadline : Deadline)
    (hrun : ∀ check ∈ checks, R (.execute container [settings.runtime, "-c", check.code])) :
    Work.Asks R (runSuite target settings container checks deadline) :=
  records_runSuite target settings container Entry.forall_asks_of_isPollNote (fun _ => trivial)
    checks deadline fun check hcheck _ => hrun check hcheck

end Snippet

namespace Sidecar

theorem asks_check (s : Snapshot) (e : Expected) : Work.Asks R (check s e).run := by
  refine Attempt.records_bind (Attempt.records_ofExcept _) fun found => ?_
  refine Attempt.records_bind ?_ fun _ => Attempt.records_pure found
  induction found with
  | nil => exact Attempt.records_pure _
  | cons m rest ih => exact Attempt.records_bind (Attempt.asks_note _ _ _) fun _ => ih

end Sidecar

end NotebookCheck

import NotebookCheck.Proofs.PollCourse
import NotebookCheck.Proofs.Reply
import NotebookCheck.Readiness

namespace NotebookCheck

variable {α β : Type}

/-- A target never answers what it is asked at a moment. -/
def Target.Ignores (target : Target) (asked : Moment × Request) : Prop :=
  match asked.2 with
  | .snapshot => target.onSnapshot asked.1 = .never
  | .execute container argv => target.onExecute asked.1 container argv = .never
  | .log container lines => target.onLog asked.1 container lines = .never

/-- A target answers what it is asked at a moment with a fault. -/
def Target.AnswersWith (target : Target) (asked : Moment × Request) (fault : Fault) : Prop :=
  match asked.2 with
  | .snapshot => ∃ delay, target.onSnapshot asked.1 = .after delay (.error fault)
  | .execute container argv =>
      ∃ delay, target.onExecute asked.1 container argv = .after delay (.error fault)
  | .log container lines =>
      ∃ delay, target.onLog asked.1 container lines = .after delay (.error fault)

/-- Work is over, from whatever moment it starts, exactly if the target answers all that it is
asked. -/
def Work.EndsIfAnswered (target : Target) (w : Work α) : Prop :=
  ∀ m, (w m).value = none ↔ ∃ asked ∈ (w m).asked m, target.Ignores asked

section

variable {target : Target}

theorem Target.exists_ignores_append_iff {first second : List (Moment × Request)}
    (h : ∀ asked ∈ first, ¬ target.Ignores asked) :
    (∃ asked ∈ first ++ second, target.Ignores asked) ↔
      ∃ asked ∈ second, target.Ignores asked := by
  constructor
  · rintro ⟨asked, hmem, hignored⟩
    have hsecond := (List.mem_append.mp hmem).resolve_left fun hfirst => h asked hfirst hignored
    exact ⟨asked, hsecond, hignored⟩
  · rintro ⟨asked, hmem, hignored⟩
    exact ⟨asked, List.mem_append_right _ hmem, hignored⟩

theorem Work.EndsIfAnswered.not_ignores {w : Work α} (hw : w.EndsIfAnswered target) {m : Moment}
    {a : α} (h : (w m).value = some a) : ∀ asked ∈ (w m).asked m, ¬ target.Ignores asked := by
  intro asked hmem hignored
  rw [(hw m).mpr ⟨asked, hmem, hignored⟩] at h
  cases h

theorem Work.endsIfAnswered_of_silent {w : Work α}
    (h : ∀ m, (w m).value ≠ none ∧ (w m).asked m = []) : w.EndsIfAnswered target := by
  intro m
  simp [h m]

theorem Work.endsIfAnswered_pure (a : α) : EndsIfAnswered target (pure a : Work α) :=
  endsIfAnswered_of_silent fun _ => ⟨Option.some_ne_none a, rfl⟩

theorem Work.endsIfAnswered_note (level : Level) (message : String)
    (fields : List (String × FieldValue)) : EndsIfAnswered target (note level message fields) :=
  endsIfAnswered_of_silent fun _ => ⟨Option.some_ne_none (), rfl⟩

theorem Work.EndsIfAnswered.bind {w : Work α} {f : α → Work β} (hw : w.EndsIfAnswered target)
    (hf : ∀ a, (f a).EndsIfAnswered target) : (w >>= f).EndsIfAnswered target := by
  intro m
  cases hvalue : (w m).value with
  | none =>
      rw [bind_of_none w f m hvalue]
      exact iff_of_true rfl ((hw m).mp hvalue)
  | some a =>
      rw [bind_of_value w f m hvalue, Trace.asked_followedBy, Trace.value_followedBy, hf a,
        Target.exists_ignores_append_iff (hw.not_ignores hvalue)]

namespace Attempt

theorem endsIfAnswered_ofExcept (r : Except Fault α) :
    Work.EndsIfAnswered target (ofExcept r).run := Work.endsIfAnswered_pure r

theorem endsIfAnswered_bind {w : Attempt α} {f : α → Attempt β}
    (hw : Work.EndsIfAnswered target w.run) (hf : ∀ a, Work.EndsIfAnswered target (f a).run) :
    Work.EndsIfAnswered target (w >>= f).run := by
  rw [ExceptT.run_bind]
  refine hw.bind fun result => ?_
  cases result with
  | error fault => exact Work.endsIfAnswered_pure _
  | ok a => exact hf a

theorem endsIfAnswered_map {w : Attempt α} (hw : Work.EndsIfAnswered target w.run) (f : α → β) :
    Work.EndsIfAnswered target (w >>= fun a => pure (f a) : Attempt β).run :=
  endsIfAnswered_bind hw fun _ => Work.endsIfAnswered_pure _

end Attempt

theorem Target.endsIfAnswered_await {request : Request} {reply : Moment → Reply α}
    (h : ∀ m, target.Ignores (m, request) ↔ reply m = .never) :
    Work.EndsIfAnswered target (await request reply).run := by
  intro m
  rw [run_await_eq]
  have hnone : (reply m).answer? = none ↔ reply m = .never := by
    cases reply m <;> simp [Reply.answer?]
  simp [Trace.asked, Trace.calls, Entry.call?, Trace.askedAfter, hnone, h]

theorem Trace.asked_eq_of_calls_eq {t : Trace α} {u : Trace β} {m : Moment}
    (h : t.calls = u.calls) : t.asked m = u.asked m :=
  congrArg (askedAfter m.past) h

namespace Poller

variable (p : Poller) {probe : ℕ → Attempt (Tick α)}

theorem endsIfAnswered_runEach (hprobe : ∀ k, Work.EndsIfAnswered target (probe k).run) :
    Work.EndsIfAnswered target (p.runEach probe).run := by
  intro m
  refine runFrom_induction p probe m
    (motive := fun _ _ m' t => t.value = none ↔ ∃ asked ∈ t.asked m', target.Ignores asked)
    ?stalled ?closed ?passed 0 0
  case stalled => exact fun k _ m' hnone => iff_of_true rfl ((hprobe k m').mp hnone)
  case closed =>
    intro k elapsed m' answer hanswer
    rw [Trace.asked_eq_of_calls_eq (p.calls_closed k ((probe k).run m') answer elapsed),
      ← hprobe k m', hanswer]
    simp [closed]
  case passed =>
    intro k elapsed m' answer rest hanswer _ hrest
    rw [Trace.asked_followedBy, Trace.value_followedBy, hrest,
      Trace.asked_eq_of_calls_eq (p.calls_passed k ((probe k).run m') answer),
      Target.exists_ignores_append_iff ((hprobe k).not_ignores hanswer)]

end Poller

end

section

variable (target : Target)

theorem Target.endsIfAnswered_snapshot : Work.EndsIfAnswered target target.snapshot.run :=
  endsIfAnswered_await fun _ => Iff.rfl

theorem Target.endsIfAnswered_execute (container : String) (argv : List String) :
    Work.EndsIfAnswered target (target.execute container argv).run :=
  endsIfAnswered_await fun _ => Iff.rfl

theorem Target.endsIfAnswered_log (container : String) (lines : ℕ) :
    Work.EndsIfAnswered target (target.log container lines).run :=
  endsIfAnswered_await fun _ => Iff.rfl

theorem Diagnostics.endsIfAnswered_failureDetails (s : Snapshot) (lines : ℕ) :
    (failureDetails target s lines).EndsIfAnswered target := by
  unfold failureDetails
  split
  · exact Work.endsIfAnswered_pure _
  · refine Work.EndsIfAnswered.bind (target.endsIfAnswered_log _ lines) fun answer => ?_
    cases answer with
    | ok logs =>
        dsimp only
        split
        · exact Work.endsIfAnswered_pure _
        · exact Work.endsIfAnswered_pure _
    | error fault =>
        exact (Work.endsIfAnswered_note _ _ _).bind fun _ => Work.endsIfAnswered_pure _

namespace Readiness

variable (settings : Settings)

theorem endsIfAnswered_describeFailure (cause : Fault) :
    (describeFailure target settings cause).EndsIfAnswered target := by
  refine Work.EndsIfAnswered.bind target.endsIfAnswered_snapshot fun answer => ?_
  split
  · exact (Work.endsIfAnswered_note _ _ _).bind fun _ => Work.endsIfAnswered_pure _
  · exact Work.endsIfAnswered_pure _
  · exact (Diagnostics.endsIfAnswered_failureDetails target _ _).bind
      fun _ => Work.endsIfAnswered_pure _

theorem endsIfAnswered_conclude (result : Except Fault Snapshot) :
    (conclude target settings result).EndsIfAnswered target := by
  cases result with
  | ok snapshot =>
      exact (Work.endsIfAnswered_note _ _ _).bind fun _ => Work.endsIfAnswered_pure _
  | error cause =>
      refine (endsIfAnswered_describeFailure target settings cause).bind fun failure => ?_
      exact (Work.endsIfAnswered_note _ _ _).bind fun _ => Work.endsIfAnswered_pure _

theorem endsIfAnswered_waitUntilReady :
    Work.EndsIfAnswered target (waitUntilReady target settings).run := by
  have hpoll : ∀ (p : Poller) {α : Type} (f : Option Snapshot → Tick α),
      Work.EndsIfAnswered target
        (p.run (target.snapshot >>= fun found => pure (f found))).run :=
    fun p _ f => p.endsIfAnswered_runEach fun _ =>
      Attempt.endsIfAnswered_map target.endsIfAnswered_snapshot f
  refine Attempt.endsIfAnswered_bind (Attempt.endsIfAnswered_ofExcept _) fun existence => ?_
  refine Attempt.endsIfAnswered_bind (Attempt.endsIfAnswered_ofExcept _) fun ready => ?_
  refine Work.EndsIfAnswered.bind ?_ fun result => endsIfAnswered_conclude target settings result
  exact Attempt.endsIfAnswered_bind (hpoll existence _) fun _ => hpoll ready _

theorem endsIfAnswered_waitForConnection (container : String) :
    Work.EndsIfAnswered target (waitForConnection target container settings).run := by
  refine Attempt.endsIfAnswered_bind (Attempt.endsIfAnswered_ofExcept _) fun poller => ?_
  refine Attempt.endsIfAnswered_bind (Poller.endsIfAnswered_runEach _ fun _ =>
    Attempt.endsIfAnswered_map (target.endsIfAnswered_execute container _) _) fun _ => ?_
  exact Work.EndsIfAnswered.bind (Work.endsIfAnswered_note _ _ _) fun _ =>
    Work.endsIfAnswered_pure _

end Readiness

end

end NotebookCheck

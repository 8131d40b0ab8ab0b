import NotebookCheck.Proofs.Work

namespace NotebookCheck

variable {α : Type}

namespace Reply

def answer? : Reply α → Option (Except Fault α)
  | after _ answer => some answer
  | never => none

def delay : Reply α → Nat
  | after delay _ => delay
  | never => 0

def answerWithin (limit : Nat) : Reply α → Option (Except Fault α)
  | after delay answer => if delay ≤ limit then some answer else none
  | never => none

def waitWithin (limit : Nat) : Reply α → Nat
  | after delay _ => min delay limit
  | never => limit

theorem answerWithin_eq_some_iff (limit : Nat) (reply : Reply α) (answer : Except Fault α) :
    reply.answerWithin limit = some answer ↔
      ∃ delay, reply = .after delay answer ∧ delay ≤ limit := by
  cases reply with
  | never => simp [answerWithin]
  | after delay found =>
      by_cases hdelay : delay ≤ limit
      · simp only [answerWithin, hdelay, if_true, Option.some.injEq]
        constructor
        · rintro rfl
          exact ⟨delay, rfl, hdelay⟩
        · rintro ⟨_, heq, -⟩
          cases heq
          rfl
      · simp only [answerWithin, hdelay, if_false]
        constructor
        · intro h
          cases h
        · rintro ⟨_, heq, hle⟩
          cases heq
          exact absurd hle hdelay

theorem answerWithin_eq_none_iff (limit : Nat) (reply : Reply α) :
    reply.answerWithin limit = none ↔
      ∀ delay answer, reply = .after delay answer → limit < delay := by
  cases reply with
  | never => simp [answerWithin]
  | after delay found => simp [answerWithin]

theorem waitWithin_of_answerWithin_eq_none {limit : Nat} {reply : Reply α}
    (h : reply.answerWithin limit = none) : reply.waitWithin limit = limit := by
  cases reply with
  | never => rfl
  | after delay found =>
      have hlate := (answerWithin_eq_none_iff limit _).mp h delay found rfl
      exact Nat.min_eq_right (Nat.le_of_lt hlate)

end Reply

namespace Target

theorem awaitWithin_apply (limit : Nat) (request : Request) (reply : Moment → Reply α)
    (m : Moment) :
    awaitWithin limit request reply m =
      ⟨some ((reply m).answerWithin limit), (reply m).waitWithin limit,
        [.call ⟨m.now, request⟩]⟩ := by
  cases h : reply m with
  | never => simp [awaitWithin, h, Reply.answerWithin, Reply.waitWithin]
  | after delay answer =>
      by_cases hdelay : delay ≤ limit
      · simp [awaitWithin, h, Reply.answerWithin, Reply.waitWithin, hdelay]
      · have hmin : min delay limit = limit := by omega
        simp [awaitWithin, h, Reply.answerWithin, Reply.waitWithin, hdelay, hmin]

theorem run_await (request : Request) (reply : Moment → Reply α) (m : Moment) :
    (await request reply).run m =
      match reply m with
      | .after delay answer => ⟨some answer, delay, [.call ⟨m.now, request⟩]⟩
      | .never => ⟨none, 0, [.call ⟨m.now, request⟩]⟩ := rfl

theorem run_await_eq (request : Request) (reply : Moment → Reply α) (m : Moment) :
    (await request reply).run m =
      ⟨(reply m).answer?, (reply m).delay, [.call ⟨m.now, request⟩]⟩ := by
  rw [run_await]
  cases reply m <;> rfl

/-- What is made of the answer to the request of a snapshot by one who needs the target. -/
def presence (name : String) : Except Fault (Option Snapshot) → Except Fault Snapshot
  | .error fault => .error fault
  | .ok none => .error (.precondition (.targetMissing name))
  | .ok (some snapshot) => .ok snapshot

theorem run_presentSnapshot (t : Target) (m : Moment) {delay : Nat}
    {answer : Except Fault (Option Snapshot)} (h : t.onSnapshot m = .after delay answer) :
    t.presentSnapshot.run m =
      ⟨some (presence t.name answer), delay, [.call ⟨m.now, .snapshot⟩]⟩ := by
  have hsnapshot : t.snapshot.run m = ⟨some answer, delay, [.call ⟨m.now, .snapshot⟩]⟩ := by
    rw [snapshot, run_await, h]
  rw [presentSnapshot]
  cases answer with
  | error fault =>
      rw [Attempt.run_bind_of_error _ _ _ (congrArg Trace.value hsnapshot), hsnapshot]
      rfl
  | ok found =>
      rw [Attempt.run_bind_of_ok _ _ _ (congrArg Trace.value hsnapshot), hsnapshot]
      cases found <;> rfl

theorem run_presentSnapshot_of_never (t : Target) (m : Moment) (h : t.onSnapshot m = .never) :
    t.presentSnapshot.run m = ⟨none, 0, [.call ⟨m.now, .snapshot⟩]⟩ := by
  have hsnapshot : t.snapshot.run m = ⟨none, 0, [.call ⟨m.now, .snapshot⟩]⟩ := by
    rw [snapshot, run_await, h]
  rw [presentSnapshot, Attempt.run_bind_of_none _ _ _ (congrArg Trace.value hsnapshot),
    hsnapshot]

end Target

end NotebookCheck

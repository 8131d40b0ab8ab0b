import NotebookCheck.Proofs.PollCourse
import NotebookCheck.Proofs.Reply
import NotebookCheck.Proofs.SettingsBounds
import NotebookCheck.Readiness

namespace NotebookCheck.Readiness.Connection

section Course

variable (target : Target) (container : String) (settings : Settings)

def replyAt (m : Moment) : Reply String := target.onExecute m container connectionProbe.argv

def answeredAt (m : Moment) : Moment :=
  ⟨m.now + (replyAt target container m).delay,
    ⟨m.now, .execute container connectionProbe.argv⟩ :: m.past⟩

/-- The moments at which the command is tried one after the other, with a pause of an interval. -/
def triedAt (start : Moment) : ℕ → Moment
  | 0 => start
  | k + 1 =>
      let m := answeredAt target container (triedAt start k)
      { m with now := m.now + Settings.millis settings.connectionPollInterval }

/-- A try at a moment fails with a fault which says that no command can be run yet. -/
def IsRefused (m : Moment) : Prop :=
  ∃ delay fault, replyAt target container m = .after delay (.error fault) ∧
    fault.kind ∈ [.execution, .api, .connection]

def limitOf (start : Moment) : ℕ := start.now + Settings.millis settings.connectionTimeout

/-- What comes of a wait whose last try has the given number and answer, after the given time. -/
def outcome (n elapsed : ℕ) : Except Fault String → Except Fault Unit
  | .ok _ => .ok ()
  | .error fault =>
      if fault.kind ∈ [.execution, .api, .connection] then
        .error (.timeout "exec connection" elapsed (Settings.millis settings.connectionTimeout)
          (min (n + 1) maxAttempts))
      else .error fault

theorem outcome_eq_ok_iff (n elapsed : ℕ) (answer : Except Fault String) :
    outcome settings n elapsed answer = .ok () ↔ ∃ output, answer = .ok output := by
  cases answer with
  | ok output => simp [outcome]
  | error fault =>
      rw [outcome]
      split <;> simp

end Course

def tryOnce (target : Target) (container : String) : Attempt (Tick Unit) := do
  let _ ← target.execute container connectionProbe.argv
  return .satisfied ()

def tick : Except Fault String → Except Fault (Tick Unit) := Except.map fun _ => .satisfied ()

def poller {settings : Settings} (h : settings.InBounds) : Poller where
  operation := "exec connection"
  interval := Settings.millis settings.connectionPollInterval
  timeout := Settings.millis settings.connectionTimeout
  ignorable := [.execution, .api, .connection]
  interval_pos := Settings.millis_pos h.connectionPollInterval.1
  timeout_pos := Settings.millis_pos h.connectionTimeout.1

section Tries

variable (target : Target) (container : String) {settings : Settings} (h : settings.InBounds)
  (start : Moment)

theorem run_tryOnce (m : Moment) :
    (tryOnce target container).run m =
      ⟨(replyAt target container m).answer?.map tick, (replyAt target container m).delay,
        [.call ⟨m.now, .execute container connectionProbe.argv⟩]⟩ := by
  rw [tryOnce, Attempt.run_bind_pure, Target.execute, Target.run_await_eq]
  rfl

theorem momentOf_eq_triedAt (k : ℕ) :
    (poller h).momentOf (fun _ => tryOnce target container) start k =
      triedAt target container settings start k := by
  induction k with
  | zero => rfl
  | succ k ih =>
      simp only [Poller.momentOf, ih, run_tryOnce]
      rfl

theorem probeTrace_eq (k : ℕ) :
    (poller h).probeTrace (fun _ => tryOnce target container) start k =
      (tryOnce target container).run (triedAt target container settings start k) := by
  rw [Poller.probeTrace, momentOf_eq_triedAt]

theorem now_triedAt (k : ℕ) :
    (triedAt target container settings start k).now =
      start.now + Poller.startOf (poller h).interval
        ((poller h).delayOf (fun _ => tryOnce target container) start) k := by
  rw [← momentOf_eq_triedAt target container h, Poller.momentOf_now]

theorem isRefused_iff (k : ℕ) :
    IsRefused target container (triedAt target container settings start k) ↔
      ∃ answer, ((poller h).probeTrace (fun _ => tryOnce target container) start k).value =
        some answer ∧ (poller h).GoesOn answer := by
  rw [probeTrace_eq, run_tryOnce, IsRefused]
  cases replyAt target container (triedAt target container settings start k) with
  | never => simp [Reply.answer?]
  | after delay answer =>
      cases answer <;> simp [Reply.answer?, tick, Except.map, Poller.GoesOn, poller]

theorem outcome_tick (n elapsed : ℕ) (answer : Except Fault String) :
    (poller h).outcome n elapsed (tick answer) = outcome settings n elapsed answer := by
  cases answer <;> rfl

def callAt (container : String) (m : Moment) : Call :=
  ⟨m.now, .execute container ["echo", "connection_test"]⟩

variable {target container start} {n : ℕ}
  (hleast : IsLeast {k | (poller h).StopsAt (fun _ => tryOnce target container) start k} n)
include hleast

/-- The command is tried exactly if all tries before are refused and it is not past the limit. -/
theorem le_iff_of_isLeast_stopsAt (k : ℕ) :
    k ≤ n ↔
      (∀ j < k, IsRefused target container (triedAt target container settings start j)) ∧
        (triedAt target container settings start k).now ≤ limitOf settings start := by
  simp only [Poller.le_iff_of_isLeast_stopsAt hleast, isRefused_iff target container h,
    now_triedAt target container h, limitOf, Nat.add_le_add_iff_left]
  rfl

theorem le_of_answered_ok {k delay : ℕ} {output : String}
    (hreply : replyAt target container (triedAt target container settings start k) =
      .after delay (.ok output)) : n ≤ k := by
  refine hleast.2 (.inr (.inl ⟨(), ?_⟩))
  rw [Poller.answerOf, probeTrace_eq, run_tryOnce, hreply]
  rfl

theorem poll_tells :
    let t := ((poller h).run (tryOnce target container)).run start
    let last := triedAt target container settings start n
    t.calls = (List.range (n + 1)).map
        (fun k => callAt container (triedAt target container settings start k)) ∧
      (replyAt target container last = .never → t.value = none) ∧
      ∀ delay answer, replyAt target container last = .after delay answer →
        start.now + t.elapsed = last.now + delay ∧
          t.value = some (outcome settings n t.elapsed answer) := by
  intro t last
  obtain ⟨hcalls, hnone, hsome⟩ := Poller.runEach_tells hleast
  have hlast := (probeTrace_eq target container h start n).trans (run_tryOnce target container last)
  refine ⟨?_, ?_, ?_⟩
  · rw [List.map_eq_flatMap]
    simp only [probeTrace_eq, run_tryOnce] at hcalls
    exact hcalls
  · intro hreply
    apply hnone
    rw [hlast, hreply]
    rfl
  · intro delay answer hreply
    rw [hreply] at hlast
    obtain ⟨helapsed, hvalue⟩ := hsome (tick answer) (congrArg Trace.value hlast)
    rw [outcome_tick] at hvalue
    refine ⟨?_, hvalue⟩
    have hdelay : (poller h).delayOf (fun _ => tryOnce target container) start n = delay :=
      congrArg Trace.elapsed hlast
    rw [Poller.endOf, hdelay] at helapsed
    rw [now_triedAt target container h, Nat.add_assoc, ← helapsed]
    rfl

end Tries

theorem exists_answer_of_value {t : Trace (Except Fault Unit)} {reply : Reply String}
    {result : Except Fault Unit} (hnever : reply = .never → t.value = none)
    (h : t.value = some result) : ∃ delay answer, reply = .after delay answer := by
  cases reply with
  | never =>
      rw [hnever rfl] at h
      cases h
  | after delay answer => exact ⟨delay, answer, rfl⟩

theorem run_waitForConnection (target : Target) (container : String) {settings : Settings}
    (h : settings.InBounds) (start : Moment) :
    (waitForConnection target container settings).run start =
      ((poller h).run (tryOnce target container) >>= fun _ =>
        Work.note .info "exec connection established"
          [("target_name", .text target.name), ("container", .text container)] :
        Attempt Unit).run start := by
  rw [waitForConnection, Poller.ofBounds_of_pos _ (Settings.millis_pos h.connectionPollInterval.1)
    (Settings.millis_pos h.connectionTimeout.1), Attempt.run_ofExcept_bind_ok]
  rfl

/-- The course of the wait for a connection.  The command is tried exactly as long as all tries
before are refused and it is not past the limit, an interval after the answer to the one before.
The wait is over when the last try is answered, however late that is, and never if it is not; so it
is over within the limit exactly if the last try is answered by then.  It succeeds exactly if some
try that starts within the limit succeeds, also after the limit. -/
theorem waitForConnection_course (target : Target) (container : String) (settings : Settings)
    (start : Moment) (hcheck : settings.check = .ok ()) :
    let tried := triedAt target container settings start
    let limit := limitOf settings start
    let t := (waitForConnection target container settings).run start
    ∃ n,
      (∀ k, k ≤ n ↔ (∀ j < k, IsRefused target container (tried j)) ∧ (tried k).now ≤ limit) ∧
      t.calls = (List.range (n + 1)).map (fun k => callAt container (tried k)) ∧
      (replyAt target container (tried n) = .never → t.value = none) ∧
      (∀ delay answer, replyAt target container (tried n) = .after delay answer →
        start.now + t.elapsed = (tried n).now + delay ∧
          t.value = some (outcome settings n t.elapsed answer)) ∧
      ((∃ result, t.value = some result ∧ start.now + t.elapsed ≤ limit) ↔
        ∃ delay answer, replyAt target container (tried n) = .after delay answer ∧
          (tried n).now + delay ≤ limit) ∧
      (t.value = some (.ok ()) ↔
        ∃ k delay output, (∀ j < k, IsRefused target container (tried j)) ∧
          (tried k).now ≤ limit ∧
          replyAt target container (tried k) = .after delay (.ok output)) := by
  intro tried limit t
  have h := (Settings.check_eq_ok_iff settings).mp hcheck
  obtain ⟨n, hleast⟩ := (poller h).exists_isLeast_stopsAt (fun _ => tryOnce target container) start
  obtain ⟨hcalls, hnever, hanswer⟩ := poll_tells h hleast
  obtain ⟨hvalue, helapsed, hsame⟩ := Attempt.run_bind_note
    ((poller h).run (tryOnce target container)) .info "exec connection established"
    [("target_name", .text target.name), ("container", .text container)] start
  rw [← run_waitForConnection target container h start] at hvalue helapsed hsame
  rw [← hsame] at hcalls
  rw [← hvalue] at hnever
  rw [← hvalue, ← helapsed] at hanswer
  have htries := le_iff_of_isLeast_stopsAt h hleast
  refine ⟨n, htries, hcalls, hnever, hanswer, ?_, ?_⟩
  · constructor
    · rintro ⟨result, hresult, htime⟩
      obtain ⟨delay, answer, hreply⟩ := exists_answer_of_value hnever hresult
      exact ⟨delay, answer, hreply, (hanswer delay answer hreply).1 ▸ htime⟩
    · rintro ⟨delay, answer, hreply, htime⟩
      obtain ⟨hend, houtcome⟩ := hanswer delay answer hreply
      exact ⟨_, houtcome, hend ▸ htime⟩
  · constructor
    · intro hok
      obtain ⟨delay, answer, hreply⟩ := exists_answer_of_value hnever hok
      have houtcome := (hanswer delay answer hreply).2.symm.trans hok
      obtain ⟨output, rfl⟩ := (outcome_eq_ok_iff settings n _ answer).mp
        (Option.some_inj.mp houtcome)
      obtain ⟨hrefused, htime⟩ := (htries n).mp le_rfl
      exact ⟨n, delay, output, hrefused, htime, hreply⟩
    · rintro ⟨k, delay, output, hrefused, htime, hreply⟩
      -- No try follows one that succeeds, so this one is the last.
      obtain rfl : k = n :=
        le_antisymm ((htries k).mpr ⟨hrefused, htime⟩) (le_of_answered_ok h hleast hreply)
      exact (hanswer delay (.ok output) hreply).2

def wakingTarget (first next : Reply String) : Target where
  name := "nb-0"
  onSnapshot _ := .never
  onExecute m _ _ := if m.past = [] then first else next
  onLog _ _ _ := .never

theorem waitForConnection_of_second_try :
    let settings : Settings := {}
    let target := wakingTarget (.after 0 (.error (.connection "refused")))
      (.after 1000 (.ok "connection_test\n"))
    settings.check = .ok () ∧
      ((waitForConnection target "nb" settings).run ⟨0, []⟩).value = some (.ok ()) := by
  intro settings target
  have hcheck : settings.check = .ok () := by decide +kernel
  obtain ⟨n, -, -, -, -, -, hok⟩ := waitForConnection_course target "nb" settings ⟨0, []⟩ hcheck
  refine ⟨hcheck, hok.mpr ⟨1, 1000, "connection_test\n", ?_, by decide +kernel, rfl⟩⟩
  intro j hj
  obtain rfl := Nat.lt_one_iff.mp hj
  exact ⟨0, .connection "refused", rfl, by decide⟩

/-- With a limit of thirty seconds, a command that runs for a minute makes the wait take a minute
and succeed, and one that never ends makes it never end. -/
theorem waitForConnection_exceeds_limit :
    let settings : Settings := {}
    let late := (waitForConnection (wakingTarget (.after 60000 (.ok "")) .never) "nb"
      settings).run ⟨0, []⟩
    let silent := (waitForConnection (wakingTarget .never .never) "nb" settings).run ⟨0, []⟩
    settings.check = .ok () ∧ settings.connectionTimeout = 30 ∧
      late.value = some (.ok ()) ∧ late.elapsed = 60000 ∧ silent.value = none := by
  decide +kernel

end NotebookCheck.Readiness.Connection

import NotebookCheck.Proofs.PollCourse
import NotebookCheck.Proofs.Reply
import NotebookCheck.Proofs.SettingsBounds
import NotebookCheck.Snippet

/-!
How long the run of a snippet takes.  Each try is cut off at the limit, and none starts past it.
But the limit starts anew with each try, so one that starts right at the limit may take it once
more.
-/

namespace NotebookCheck

theorem Reply.waitWithin_le {α : Type} (limit : ℕ) (reply : Reply α) :
    reply.waitWithin limit ≤ limit := by
  cases reply with
  | after delay answer => exact Nat.min_le_right delay limit
  | never => exact le_rfl

namespace Snippet

open Number

def tickOf (timeout : ℕ) : Option (Except Fault String) → Except Fault (Tick String)
  | some (.ok output) => .ok (.satisfied output)
  | some (.error fault) => .error fault
  | none => .error (.timeout "snippet execution" timeout timeout 1)

theorem run_tryOnce (target : Target) (container : String) (argv : List String) (timeout : ℕ)
    (m : Moment) :
    (tryOnce target container argv timeout).run m =
      ⟨some (tickOf timeout ((target.onExecute m container argv).answerWithin timeout)),
        (target.onExecute m container argv).waitWithin timeout,
        [.call ⟨m.now, .execute container argv⟩]⟩ := by
  have hreply : target.executeWithin timeout container argv m =
      ⟨some ((target.onExecute m container argv).answerWithin timeout),
        (target.onExecute m container argv).waitWithin timeout,
        [.call ⟨m.now, .execute container argv⟩]⟩ := Target.awaitWithin_apply _ _ _ m
  refine (Work.bind_of_value _ _ m (congrArg Trace.value hreply)).trans ?_
  rw [hreply]
  match (target.onExecute m container argv).answerWithin timeout with
  | some (.ok output) => rfl
  | some (.error fault) => rfl
  | none => rfl

theorem seconds_outcomeOf (timeout elapsed : ℕ) (result : Except Fault String) :
    (outcomeOf timeout elapsed result).seconds = Binary64.ofMillis elapsed := by
  unfold outcomeOf
  split <;> rfl

def poller (settings : Settings) {timeout : ℕ} (hinterval : 0 < settings.snippetRetryInterval)
    (htimeout : 0 < timeout) : Poller where
  operation := "snippet execution"
  interval := Settings.millis settings.snippetRetryInterval
  timeout := timeout
  ignorable := [.api, .connection]
  interval_pos := Settings.millis_pos hinterval
  timeout_pos := htimeout

section Tries

variable (target : Target) (settings : Settings) (container code : String) (timeout : ℕ)

def tries : ℕ → Attempt (Tick String) := fun _ =>
  tryOnce target container (Command.snippet settings.runtime code).argv timeout

variable (p : Poller) (m : Moment)

def replyTo (k : ℕ) : Reply String :=
  target.onExecute (p.momentOf (tries target settings container code timeout) m k) container
    (Command.snippet settings.runtime code).argv

theorem probeTrace_tries (k : ℕ) :
    p.probeTrace (tries target settings container code timeout) m k =
      ⟨some (tickOf timeout
          ((replyTo target settings container code timeout p m k).answerWithin timeout)),
        (replyTo target settings container code timeout p m k).waitWithin timeout,
        [.call ⟨m.now + Poller.startOf p.interval
            (p.delayOf (tries target settings container code timeout) m) k,
          .execute container (Command.snippet settings.runtime code).argv⟩]⟩ := by
  rw [← Poller.momentOf_now]
  exact run_tryOnce _ _ _ _ _

theorem calls_tries (k : ℕ) :
    (p.probeTrace (tries target settings container code timeout) m k).calls =
      [⟨m.now + Poller.startOf p.interval
          (p.delayOf (tries target settings container code timeout) m) k,
        .execute container (Command.snippet settings.runtime code).argv⟩] := by
  rw [probeTrace_tries]
  rfl

theorem delayOf_tries (k : ℕ) :
    p.delayOf (tries target settings container code timeout) m k =
      (replyTo target settings container code timeout p m k).waitWithin timeout := by
  rw [Poller.delayOf, probeTrace_tries]

theorem answerOf_tries (k : ℕ) :
    p.answerOf (tries target settings container code timeout) m k =
      tickOf timeout
        ((replyTo target settings container code timeout p m k).answerWithin timeout) := by
  rw [Poller.answerOf, probeTrace_tries, Option.getD_some]

theorem isSome_value_tries (k : ℕ) :
    (p.probeTrace (tries target settings container code timeout) m k).value.isSome = true := by
  rw [probeTrace_tries]
  rfl

theorem delayOf_tries_le (k : ℕ) :
    p.delayOf (tries target settings container code timeout) m k ≤ timeout := by
  rw [delayOf_tries]
  exact Reply.waitWithin_le _ _

end Tries

section Run

variable {target : Target} {settings : Settings} {container code : String} {timeout : ℕ}
  (hinterval : 0 < settings.snippetRetryInterval) (htimeout : 0 < timeout) {m : Moment}

theorem run_of_poll {result : Except Fault String}
    (h : (((poller settings hinterval htimeout).runEach
      (tries target settings container code timeout)).run m).value = some result) :
    let t := ((poller settings hinterval htimeout).runEach
      (tries target settings container code timeout)).run m
    (run target settings container code timeout).run m =
      ⟨some (.ok (outcomeOf timeout t.elapsed result)), t.elapsed,
        .event ⟨.debug, "executing snippet",
          [("command", .text (Command.snippet settings.runtime code).display)]⟩ ::
        (t.entries ++
          [.count (.snippetChecks (outcomeOf timeout t.elapsed result).success)])⟩ := by
  intro t
  have hpoller := Poller.ofBounds_of_pos "snippet execution" (Settings.millis_pos hinterval)
    htimeout
  have htimed : ((poller settings hinterval htimeout).runEach
      (tries target settings container code timeout)).outcome.timed m =
        ⟨some (result, t.elapsed), t.elapsed, t.entries⟩ := by
    change Trace.mk (Option.map _ t.value) _ _ = _
    rw [show t.value = some result from h]
    rfl
  rw [run, hpoller, Attempt.run_ofExcept_bind_ok]
  dsimp only
  rw [Attempt.run_lift_bind, Work.note_bind, Attempt.run_lift_bind]
  refine (congrArg _ (Work.bind_of_value _ _ m (congrArg Trace.value htimed))).trans ?_
  dsimp only
  rw [htimed, Attempt.run_lift_bind, Work.record_bind _ _ _ rfl]
  simp [Trace.followedBy, Work.pure_apply]

theorem run_tells {n : ℕ}
    (hlast : (poller settings hinterval htimeout).IsLast
      (tries target settings container code timeout) m n) :
    let p := poller settings hinterval htimeout
    let probe := tries target settings container code timeout
    let t := (run target settings container code timeout).run m
    t.elapsed = Poller.endOf p.interval (p.delayOf probe m) n ∧
      t.calls = (List.range (n + 1)).map (fun k =>
        ⟨m.now + Poller.startOf p.interval (p.delayOf probe m) k,
          .execute container (Command.snippet settings.runtime code).argv⟩) ∧
      ∃ result, t.value = some (.ok (outcomeOf timeout t.elapsed result)) := by
  intro p probe t
  -- A try is cut off if there is no answer, so each of them comes to something.
  have hanswers : ∀ k ≤ n, (p.probeTrace probe m k).value.isSome = true :=
    fun k _ => isSome_value_tries _ _ _ _ _ _ _ k
  have hpoll := Poller.runEach_of_isLast hlast hanswers
  have hrun := run_of_poll hinterval htimeout (congrArg Trace.value hpoll)
  have hcalls : t.calls = ((p.runEach probe).run m).calls := by
    rw [show t = _ from hrun, Trace.calls, List.filterMap_cons_none rfl, List.filterMap_append]
    exact List.append_nil _
  refine ⟨(congrArg Trace.elapsed hrun).trans (congrArg Trace.elapsed hpoll), ?_, ?_⟩
  · rw [hcalls, Poller.calls_runEach hlast hanswers, List.map_eq_flatMap]
    simp only [probe, calls_tries]
    rfl
  · exact ⟨_, by rw [show t = _ from hrun]⟩

theorem exists_retry_of_lt_elapsed {n : ℕ}
    (hlast : (poller settings hinterval htimeout).IsLast
      (tries target settings container code timeout) m n)
    (hlong : timeout < ((run target settings container code timeout).run m).elapsed) :
    0 < n ∧ Settings.millis settings.snippetRetryInterval ≤ timeout := by
  have helapsed := (run_tells hinterval htimeout hlast).1
  have hdelay := delayOf_tries_le target settings container code timeout
    (poller settings hinterval htimeout) m n
  have hpos : 0 < n := by
    by_contra hzero
    obtain rfl : n = 0 := Nat.eq_zero_of_not_pos hzero
    rw [helapsed, Poller.endOf, Poller.startOf, Nat.zero_add] at hlong
    exact absurd hdelay (Nat.not_le.mpr hlong)
  refine ⟨hpos, ?_⟩
  calc Settings.millis settings.snippetRetryInterval
      ≤ n * Settings.millis settings.snippetRetryInterval := Nat.le_mul_of_pos_left _ hpos
    _ ≤ Poller.startOf _ _ n := Poller.mul_interval_le_startOf _ _ n
    _ ≤ timeout := hlast.startOf_le

include hinterval htimeout in
theorem elapsed_run_le :
    ((run target settings container code timeout).run m).elapsed ≤ timeout + timeout := by
  obtain ⟨n, hlast⟩ := (poller settings hinterval htimeout).exists_isLast
    (tries target settings container code timeout) m
  have hstart : Poller.startOf _ _ n ≤ timeout := hlast.startOf_le
  rw [(run_tells hinterval htimeout hlast).1, Poller.endOf]
  exact Nat.add_le_add hstart (delayOf_tries_le _ _ _ _ _ _ _ _)

end Run

/-- A target that answers the first command after the given calls as given, and no other one. -/
def fadingTarget (first : Reply String) (past : List Call) : Target where
  name := "nb-0"
  onSnapshot _ := .never
  onExecute m _ _ := if m.past = past then first else .never
  onLog _ _ _ := .never

section Longest

variable {settings : Settings} {container code : String} {timeout : ℕ}
  (hinterval : 0 < settings.snippetRetryInterval) (htimeout : 0 < timeout) (m : Moment)

theorem replyTo_fading_zero (first : Reply String) (p : Poller) :
    replyTo (fadingTarget first m.past) settings container code timeout p m 0 = first :=
  if_pos rfl

theorem replyTo_fading_succ (first : Reply String) (p : Poller) (k : ℕ) :
    replyTo (fadingTarget first m.past) settings container code timeout p m (k + 1) = .never := by
  apply if_neg
  intro hpast
  rw [Poller.past_momentOf] at hpast
  have hnone : ∀ j, k + 1 ≤ j := by simpa [calls_tries] using hpast
  exact Nat.not_succ_le_zero k (hnone 0)

theorem endsAt_of_never {target : Target} {k : ℕ}
    (h : replyTo target settings container code timeout (poller settings hinterval htimeout) m k =
      .never) :
    (poller settings hinterval htimeout).EndsAt
      ((poller settings hinterval htimeout).delayOf
        (tries target settings container code timeout) m)
      ((poller settings hinterval htimeout).answerOf
        (tries target settings container code timeout) m) k := by
  -- The fault of a try that is cut off is a timeout, after which no other try is made.
  refine .inr (.inl ⟨.timeout "snippet execution" timeout timeout 1, ?_, ?_⟩)
  · rw [answerOf_tries, h]
    rfl
  · simp [Fault.kind, poller]

include hinterval htimeout in
theorem elapsed_run_of_silent :
    ((run (fadingTarget .never m.past) settings container code timeout).run m).elapsed =
      timeout := by
  have hlast : (poller settings hinterval htimeout).IsLast
      (tries (fadingTarget .never m.past) settings container code timeout) m 0 :=
    ⟨endsAt_of_never hinterval htimeout m (replyTo_fading_zero m _ _), fun _ _ => Nat.zero_le _⟩
  rw [(run_tells hinterval htimeout hlast).1, Poller.endOf, Poller.startOf, Nat.zero_add,
    delayOf_tries, replyTo_fading_zero, Reply.waitWithin]

theorem startOf_fading_one (first : Reply String) (p : Poller) :
    Poller.startOf p.interval
        (p.delayOf (tries (fadingTarget first m.past) settings container code timeout) m) 1 =
      first.waitWithin timeout + p.interval := by
  rw [Poller.startOf, Poller.startOf, Nat.zero_add, delayOf_tries, replyTo_fading_zero]

/-- A first try that reports a busy target in time is followed by one more, which is cut off. -/
theorem isLast_one_of_busy {busy : Reply String} {reason : String}
    (hanswer : busy.answerWithin timeout = some (.error (.api reason)))
    (htime : busy.waitWithin timeout + Settings.millis settings.snippetRetryInterval ≤ timeout) :
    (poller settings hinterval htimeout).IsLast
      (tries (fadingTarget busy m.past) settings container code timeout) m 1 := by
  refine ⟨endsAt_of_never hinterval htimeout m (replyTo_fading_succ m _ _ 0), ?_⟩
  intro k hk
  by_contra hzero
  obtain rfl : k = 0 := Nat.lt_one_iff.mp (Nat.lt_of_not_le hzero)
  refine (Poller.not_endsAt_iff _ _ _ 0).mpr ⟨.inr ⟨.api reason, ?_, ?_⟩, ?_⟩ hk
  · rw [answerOf_tries, replyTo_fading_zero, hanswer]
    rfl
  · simp [Fault.kind, poller]
  · rw [startOf_fading_one]
    exact htime

include hinterval htimeout in
theorem elapsed_run_of_busy (h : Settings.millis settings.snippetRetryInterval ≤ timeout) :
    ((run (fadingTarget (.after (timeout - Settings.millis settings.snippetRetryInterval)
      (.error (.api "busy"))) m.past) settings container code timeout).run m).elapsed =
        timeout + timeout := by
  generalize hbusy : (Reply.after (timeout - Settings.millis settings.snippetRetryInterval)
    (.error (.api "busy")) : Reply String) = busy
  have hanswer : busy.answerWithin timeout = some (.error (.api "busy")) := by
    rw [← hbusy]
    exact if_pos (Nat.sub_le _ _)
  -- The first try fails just in time for a second one right at the limit.
  have hwait : busy.waitWithin timeout + Settings.millis settings.snippetRetryInterval =
      timeout := by
    rw [← hbusy, Reply.waitWithin, Nat.min_eq_left (Nat.sub_le _ _)]
    exact Nat.sub_add_cancel h
  have hlast : (poller settings hinterval htimeout).IsLast
      (tries (fadingTarget busy m.past) settings container code timeout) m 1 :=
    isLast_one_of_busy hinterval htimeout m hanswer hwait.le
  rw [(run_tells hinterval htimeout hlast).1, Poller.endOf, startOf_fading_one, delayOf_tries,
    replyTo_fading_succ, Reply.waitWithin]
  exact congrArg (· + timeout) hwait

end Longest

def longestRun (settings : Settings) (timeout : ℕ) : ℕ :=
  if Settings.millis settings.snippetRetryInterval ≤ timeout then timeout + timeout else timeout

/-- A snippet always has an outcome, which tells how long it took.  No try starts past the limit,
and without a second one the limit is kept.  With a second one it may be exceeded, up to twice the
limit and no further: that is the longest run if there is time for a second try at all. -/
theorem isGreatest_elapsed_run (settings : Settings) (container code : String) (timeout : ℕ)
    (m : Moment) (hinterval : 0 < settings.snippetRetryInterval) (htimeout : 0 < timeout) :
    (∀ target,
      let t := (run target settings container code timeout).run m
      (∃ outcome, t.value = some (.ok outcome) ∧
        outcome.seconds = Binary64.ofMillis t.elapsed) ∧
      (∀ call ∈ t.calls, call.time ≤ m.now + timeout) ∧
      (timeout < t.elapsed → 2 ≤ t.calls.length)) ∧
    IsGreatest
      {elapsed | ∃ target,
        ((run target settings container code timeout).run m).elapsed = elapsed}
      (longestRun settings timeout) := by
  have hcourse : ∀ target, ∃ n, (poller settings hinterval htimeout).IsLast
      (tries target settings container code timeout) m n :=
    fun target => Poller.exists_isLast ..
  refine ⟨?_, ?_, ?_⟩
  · intro target t
    obtain ⟨n, hlast⟩ := hcourse target
    obtain ⟨-, hcalls, result, hvalue⟩ := run_tells hinterval htimeout hlast
    refine ⟨⟨_, hvalue, seconds_outcomeOf _ _ _⟩, ?_, ?_⟩
    · intro call hcall
      rw [hcalls] at hcall
      obtain ⟨k, hk, rfl⟩ := List.mem_map.mp hcall
      have hkn : k ≤ n := Nat.le_of_lt_succ (List.mem_range.mp hk)
      have hstart : Poller.startOf _ _ n ≤ timeout := hlast.startOf_le
      exact Nat.add_le_add_left ((Poller.startOf_mono _ _ hkn).trans hstart) m.now
    · intro hlong
      have hretry := (exists_retry_of_lt_elapsed hinterval htimeout hlast hlong).1
      rw [hcalls, List.length_map, List.length_range]
      exact Nat.succ_le_succ hretry
  · by_cases htime : Settings.millis settings.snippetRetryInterval ≤ timeout
    · rw [longestRun, if_pos htime]
      exact ⟨_, elapsed_run_of_busy hinterval htimeout m htime⟩
    · rw [longestRun, if_neg htime]
      exact ⟨_, elapsed_run_of_silent hinterval htimeout m⟩
  · rintro elapsed ⟨target, rfl⟩
    obtain ⟨n, hlast⟩ := hcourse target
    unfold longestRun
    split
    case isTrue => exact elapsed_run_le hinterval htimeout
    case isFalse htime =>
      by_contra hlong
      exact htime
        (exists_retry_of_lt_elapsed hinterval htimeout hlast (Nat.lt_of_not_le hlong)).2

theorem isGreatest_elapsed_run_of_three_seconds :
    let settings : Settings := { snippetRetryInterval := 1 }
    0 < settings.snippetRetryInterval ∧ 0 < 3000 ∧
      IsGreatest
        {elapsed | ∃ target,
          ((run target settings "nb" "import os" 3000).run ⟨0, []⟩).elapsed = elapsed} 6000 := by
  intro settings
  have hinterval : 0 < settings.snippetRetryInterval := by decide
  have hlimit : 0 < 3000 := by decide
  have hrun := (isGreatest_elapsed_run settings "nb" "import os" 3000 ⟨0, []⟩ hinterval hlimit).2
  have hlongest : longestRun settings 3000 = 6000 := by decide
  rw [hlongest] at hrun
  exact ⟨hinterval, hlimit, hrun⟩

/-- A snippet with a limit of three seconds takes four: its first try fails at once, and the second
one, a second later, is cut off after three. -/
theorem run_exceeds_limit_after_retry :
    let settings : Settings := { snippetRetryInterval := 1 }
    let target := fadingTarget (.after 0 (.error (.api "busy"))) []
    let t := (run target settings "nb" "import os" 3000).run ⟨0, []⟩
    ∃ outcome, t.value = some (.ok outcome) ∧
      outcome.output = "Code execution timeout after 4.00s (limit: 3s)" ∧
      3 < outcome.seconds.toRat := by
  intro settings target t
  exact ⟨⟨false, "Code execution timeout after 4.00s (limit: 3s)", Binary64.ofMillis 4000⟩,
    by decide +kernel, rfl, by decide +kernel⟩

end Snippet

end NotebookCheck

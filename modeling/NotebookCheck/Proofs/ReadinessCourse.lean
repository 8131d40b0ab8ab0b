import NotebookCheck.Proofs.Answered
import NotebookCheck.Proofs.ReadinessStage
import NotebookCheck.Proofs.Requests

namespace NotebookCheck

namespace Diagnostics

def logSection (lines : ℕ) : Except Fault String → String
  | .ok logs => if logs.isEmpty then "" else s!"\n\nRecent Logs (last {lines} lines):\n{logs}"
  | .error _ => "\n\n(Could not retrieve pod logs)"

def logNote (container : String) : Except Fault String → List Entry
  | .ok _ => []
  | .error fault =>
      [.event ⟨.debug, "log retrieval failed",
        [("container", .text container), ("error", .text fault.message)]⟩]

variable (target : Target) {s : Snapshot} (lines : ℕ) (m : Moment)

theorem failureDetails_of_no_container (h : s.containers = []) :
    failureDetails target s lines m =
      ⟨some (statusesText s ++ "\n\n(No containers declared)"), 0, []⟩ := by
  simp only [failureDetails, h]
  rfl

theorem failureDetails_of_container {first : Container} {rest : List Container}
    (h : s.containers = first :: rest) :
    failureDetails target s lines m =
      ⟨(target.onLog m first.name lines).answer?.map fun answer =>
          statusesText s ++ logSection lines answer,
        (target.onLog m first.name lines).delay,
        .call ⟨m.now, .log first.name lines⟩ ::
          ((target.onLog m first.name lines).answer?.map (logNote first.name)).getD []⟩ := by
  have hlog : (target.log first.name lines).outcome m =
      ⟨(target.onLog m first.name lines).answer?, (target.onLog m first.name lines).delay,
        [.call ⟨m.now, .log first.name lines⟩]⟩ := Target.run_await_eq _ _ _
  simp only [failureDetails, h]
  cases hanswer : (target.onLog m first.name lines).answer? with
  | none =>
      rw [Work.bind_of_none _ _ _ (by rw [hlog, hanswer]), hlog]
      rfl
  | some answer =>
      rw [Work.bind_of_value _ _ _ (by rw [hlog, hanswer]), hlog]
      cases answer with
      | error fault => rfl
      | ok logs =>
          by_cases hempty : logs.isEmpty = true
          · simp only [Option.map_some, logSection, hempty, if_true, String.append_empty]
            rfl
          · simp only [Option.map_some, logSection, hempty]
            rfl

end Diagnostics

namespace Readiness

variable (target : Target) (settings : Settings)

def detailsAt (m : Moment) (s : Snapshot) : String :=
  Diagnostics.statusesText s ++
    match s.containers with
    | [] => "\n\n(No containers declared)"
    | first :: _ =>
        ((target.onLog m first.name settings.readinessLogLines).answer?.map
          (Diagnostics.logSection settings.readinessLogLines)).getD ""

/-- The log that is asked for at a moment, after a snapshot: that of the first container. -/
def logAskedAt (m : Moment) (s : Snapshot) : List (Moment × Request) :=
  match s.containers with
  | [] => []
  | first :: _ => [(m, .log first.name settings.readinessLogLines)]

def found? : Except Fault (Option Snapshot) → Option Snapshot
  | .ok found => found
  | .error _ => none

/-- What is said of a wait that ended with a fault, after one more snapshot at a moment with the
given answer: the phase and the details are those of this snapshot. -/
def failureAt (cause : Fault) (m : Moment) (answer : Except Fault (Option Snapshot)) :
    ReadinessFailure where
  target := target.name
  phase := (found? answer).map (·.phase)
  details := (found? answer).map (detailsAt target settings (answeredAt target m))
  cause := cause.message
  timeout := Settings.millis settings.readinessTimeout

/-- What is asked at the end of a wait that failed: one more snapshot, and a log if that has a
container. -/
def finallyAsked (m : Moment) (answer : Except Fault (Option Snapshot)) :
    List (Moment × Request) :=
  (m, .snapshot) ::
    ((found? answer).map (logAskedAt settings (answeredAt target m))).getD []

theorem failureDetails_tells {m : Moment} {s : Snapshot} {details : String}
    (h : (Diagnostics.failureDetails target s settings.readinessLogLines m).value =
      some details) :
    details = detailsAt target settings m s ∧
      (Diagnostics.failureDetails target s settings.readinessLogLines m).asked m =
        logAskedAt settings m s := by
  unfold detailsAt logAskedAt
  cases hcontainers : s.containers with
  | nil =>
      rw [Diagnostics.failureDetails_of_no_container _ _ _ hcontainers] at h ⊢
      cases h
      exact ⟨rfl, rfl⟩
  | cons first rest =>
      rw [Diagnostics.failureDetails_of_container _ _ _ hcontainers] at h ⊢
      obtain ⟨answer, hanswer, rfl⟩ := Option.map_eq_some_iff.mp h
      refine ⟨by simp only [hanswer, Option.map_some, Option.getD_some], ?_⟩
      rw [hanswer]
      cases answer <;> rfl

theorem snapshot_outcome (m : Moment) :
    target.snapshot.outcome m =
      ⟨(target.onSnapshot m).answer?, (target.onSnapshot m).delay, [.call ⟨m.now, .snapshot⟩]⟩ :=
  Target.run_await_eq _ _ _

theorem describeFailure_tells {cause : Fault} {m : Moment} {failure : ReadinessFailure}
    (h : (describeFailure target settings cause m).value = some failure) :
    ∃ answer, Answers target m answer ∧
      failure = failureAt target settings cause m answer ∧
      (describeFailure target settings cause m).asked m =
        finallyAsked target settings m answer := by
  have houtcome := snapshot_outcome target m
  unfold describeFailure at h ⊢
  dsimp only at h ⊢
  cases hanswer : (target.onSnapshot m).answer? with
  | none =>
      rw [Work.bind_of_none _ _ _ (by rw [houtcome, hanswer])] at h
      cases h
  | some answer =>
      have hvalue := (congrArg Trace.value houtcome).trans hanswer
      have hafter : m.after (target.snapshot.outcome m) = answeredAt target m := by
        rw [houtcome]
        rfl
      have hasked : (target.snapshot.outcome m).asked m = [(m, .snapshot)] := by
        rw [houtcome]
        rfl
      refine ⟨answer, (answers_iff m answer).mpr hanswer, ?_⟩
      rw [Work.bind_of_value _ _ _ hvalue, Trace.value_followedBy, hafter] at h
      rw [Work.bind_of_value _ _ _ hvalue, Trace.asked_followedBy, hafter, hasked]
      match answer with
      | .error fault =>
          cases h
          exact ⟨rfl, rfl⟩
      | .ok none =>
          cases h
          exact ⟨rfl, rfl⟩
      | .ok (some s) =>
          dsimp only at h ⊢
          rw [Work.bind_pure_apply] at h ⊢
          obtain ⟨details, hdetails, rfl⟩ := Option.map_eq_some_iff.mp h
          obtain ⟨rfl, hlog⟩ := failureDetails_tells target settings hdetails
          exact ⟨rfl, congrArg (List.cons (m, Request.snapshot)) hlog⟩

theorem conclude_ok (s : Snapshot) (m : Moment) :
    conclude target settings (.ok s) m =
      ⟨some (.ok s), 0, [.event ⟨.info, "target is ready",
        [("target_name", .text target.name), ("phase", .text s.phase.name)]⟩]⟩ := rfl

theorem value_conclude_error (cause : Fault) (m : Moment) :
    (conclude target settings (.error cause) m).value =
      (describeFailure target settings cause m).value.map fun failure =>
        .error (.notReady failure) := by
  rw [conclude]
  cases h : (describeFailure target settings cause m).value with
  | none =>
      rw [Work.bind_of_none _ _ _ h]
      rfl
  | some failure =>
      rw [Work.bind_of_value _ _ _ h]
      rfl

theorem asked_conclude_error (cause : Fault) (m : Moment) :
    (conclude target settings (.error cause) m).asked m =
      (describeFailure target settings cause m).asked m := by
  rw [conclude]
  cases h : (describeFailure target settings cause m).value with
  | none =>
      rw [Work.bind_of_none _ _ _ h]
      rfl
  | some failure =>
      rw [Work.bind_of_value _ _ _ h, Trace.asked_followedBy]
      exact List.append_nil _

/-- How a wait goes that starts at a moment: the moments at which it takes snapshots, the moment at
which the last of them has been answered, and what comes of it.  The second stage follows a first
one that finds the target, and starts once that is over. -/
inductive Waits (start : Moment) : List Moment → Moment → Except Fault Snapshot → Prop where
  | absent {n : ℕ} {fault : Fault}
      (hfirst : Stage.existence.Goes target settings start n (.error fault)) :
      Waits start (takenUpTo target settings start n)
        (answeredAt target (takenAt target settings start n)) (.error fault)
  | present {n k : ℕ} {s : Snapshot} {next : Moment} {result : Except Fault Snapshot}
      (hfirst : Stage.existence.Goes target settings start n (.ok s))
      (hnext : next = answeredAt target (takenAt target settings start n))
      (hsecond : Stage.ready.Goes target settings next k result) :
      Waits start (takenUpTo target settings start n ++ takenUpTo target settings next k)
        (answeredAt target (takenAt target settings next k)) result

variable {target settings}

theorem waitWith_tells (h : settings.InBounds) {m : Moment} {result : Except Fault Snapshot}
    (hvalue : ((waitWith target (Stage.existence.poller h) (Stage.ready.poller h)).run m).value =
      some result) :
    ∃ moments stop, Waits target settings m moments stop result ∧
      ((waitWith target (Stage.existence.poller h) (Stage.ready.poller h)).run m).asked m =
        moments.map (fun m' => (m', .snapshot)) ∧
      m.after ((waitWith target (Stage.existence.poller h) (Stage.ready.poller h)).run m) =
        stop := by
  rw [waitWith, Stage.waitForExistence_eq, Stage.waitForCondition_eq] at hvalue ⊢
  cases hfirst : (((Stage.existence.poller h).run (Stage.existence.glance target)).run m).value with
  | none =>
      rw [Attempt.run_bind_of_none _ _ _ hfirst] at hvalue
      cases hvalue
  | some found =>
      obtain ⟨n, hgoes⟩ := (Stage.value_run_eq_some_iff h).mp hfirst
      have hasked := Stage.asked_run h hgoes
      have hafter := Stage.after_run h hgoes
      cases found with
      | error fault =>
          rw [Attempt.run_bind_of_error _ _ _ hfirst] at hvalue ⊢
          cases hvalue
          exact ⟨_, _, .absent hgoes, hasked, hafter⟩
      | ok s =>
          rw [Attempt.run_bind_of_ok _ _ _ hfirst] at hvalue ⊢
          rw [Trace.value_followedBy, hafter] at hvalue
          obtain ⟨k, hgoes'⟩ := (Stage.value_run_eq_some_iff h).mp hvalue
          refine ⟨_, _, .present hgoes rfl hgoes', ?_, ?_⟩
          · rw [Trace.asked_followedBy, hasked, hafter, Stage.asked_run h hgoes', List.map_append]
          · rw [Moment.after_followedBy, hafter, Stage.after_run h hgoes']

theorem run_waitUntilReady (h : settings.InBounds) (m : Moment) :
    (waitUntilReady target settings).run m =
      ((waitWith target (Stage.existence.poller h) (Stage.ready.poller h)).outcome >>=
        conclude target settings) m := by
  have hexistence := Stage.existence.readinessPoller_eq_ok h
  have hready := Stage.ready.readinessPoller_eq_ok h
  simp only [Stage.existence, Stage.ready] at hexistence hready
  rw [waitUntilReady, hexistence, hready, Attempt.run_ofExcept_bind_ok,
    Attempt.run_ofExcept_bind_ok]
  rfl

theorem waitUntilReady_tells (h : settings.InBounds) {m : Moment}
    {result : Except Fault Snapshot}
    (hvalue : ((waitUntilReady target settings).run m).value = some result) :
    ∃ moments stop outcome, Waits target settings m moments stop outcome ∧
      (∀ s, outcome = .ok s → result = .ok s ∧
        ((waitUntilReady target settings).run m).asked m =
          moments.map fun m' => (m', .snapshot)) ∧
      ∀ cause, outcome = .error cause → ∃ answer, Answers target stop answer ∧
        result = .error (.notReady (failureAt target settings cause stop answer)) ∧
        ((waitUntilReady target settings).run m).asked m =
          moments.map (fun m' => (m', .snapshot)) ++ finallyAsked target settings stop answer := by
  rw [run_waitUntilReady h] at hvalue ⊢
  obtain ⟨outcome, houtcome, hend⟩ := (Work.value_bind_eq_some_iff _ _ _ _).mp hvalue
  obtain ⟨moments, stop, hwaits, hasked, hafter⟩ := waitWith_tells h houtcome
  rw [Work.bind_of_value _ _ _ houtcome, Trace.asked_followedBy]
  change m.after ((waitWith _ _ _).outcome m) = stop at hafter
  rw [hafter] at hend ⊢
  refine ⟨moments, stop, outcome, hwaits, ?_, ?_⟩
  · rintro s rfl
    rw [conclude_ok] at hend ⊢
    cases hend
    exact ⟨rfl, (List.append_nil _).trans hasked⟩
  · rintro cause rfl
    rw [value_conclude_error] at hend
    obtain ⟨failure, hfailure, rfl⟩ := Option.map_eq_some_iff.mp hend
    obtain ⟨answer, hanswer, rfl, hfinally⟩ := describeFailure_tells target settings hfailure
    refine ⟨answer, hanswer, rfl, ?_⟩
    rw [asked_conclude_error, hfinally]
    exact congrArg (· ++ finallyAsked target settings stop answer) hasked

theorem isSome_value_waitUntilReady (m : Moment)
    (hsnapshots : ∀ m', target.onSnapshot m' ≠ .never)
    (hlogs : ∀ m' container,
      target.onLog m' container settings.readinessLogLines ≠ .never) :
    ((waitUntilReady target settings).run m).value.isSome = true := by
  rw [Option.isSome_iff_ne_none]
  intro hnone
  obtain ⟨⟨m', request⟩, hasked, hignored⟩ :=
    (endsIfAnswered_waitUntilReady target settings m).mp hnone
  have hasks := (asks_waitUntilReady (R := fun request => request = .snapshot ∨
    ∃ container, request = .log container settings.readinessLogLines) target settings (.inl rfl)
      fun container => .inr ⟨container, rfl⟩).of_mem_asked hasked
  rcases hasks with rfl | ⟨container, rfl⟩
  · exact hsnapshots m' hignored
  · exact hlogs m' container hignored

theorem getLast?_takenUpTo (start : Moment) (n : ℕ) :
    (takenUpTo target settings start n).getLast? = some (takenAt target settings start n) := by
  rw [takenUpTo, List.range_succ, List.map_append, List.getLast?_append]
  rfl

theorem Stage.answers_of_goes_ok {stage : Stage} {start : Moment} {n : ℕ} {s : Snapshot}
    (h : stage.Goes target settings start n (.ok s)) :
    Answers target (takenAt target settings start n) (.ok (some s)) := by
  obtain ⟨answer, hanswer, hresult⟩ := h.result_eq
  match answer with
  | .error fault =>
      rw [Stage.outcome] at hresult
      split at hresult <;> cases hresult
  | .ok none => cases hresult
  | .ok (some found) =>
      rw [Stage.outcome] at hresult
      split at hresult
      · cases hresult
        exact hanswer
      · cases hresult

theorem Waits.exists_last_of_ok {start stop : Moment} {moments : List Moment} {s : Snapshot}
    (h : Waits target settings start moments stop (.ok s)) :
    ∃ last, moments.getLast? = some last ∧ Answers target last (.ok (some s)) := by
  cases h with
  | present hfirst hnext hsecond =>
      refine ⟨_, ?_, Stage.answers_of_goes_ok hsecond⟩
      rw [List.getLast?_append, getLast?_takenUpTo, Option.some_or]

/-- The whole course of a wait for readiness, whatever a target answers that answers at all.  It
asks for snapshots and logs only.  If its stages find the target and then find it ready, it gives
the last snapshot that was taken, and has asked for nothing else.  Otherwise it fails as not ready:
it takes one more snapshot, which decides what is said of the target, and asks for the log of that
snapshot's first container if there is one. -/
theorem waitUntilReady_course (target : Target) (settings : Settings) (m : Moment)
    (hsettings : settings.check = .ok ())
    (hsnapshots : ∀ m', target.onSnapshot m' ≠ .never)
    (hlogs : ∀ m' container,
      target.onLog m' container settings.readinessLogLines ≠ .never) :
    let t := (waitUntilReady target settings).run m
    (∀ call ∈ t.calls, ∀ container argv, call.request ≠ .execute container argv) ∧
    ∃ moments stop outcome, Waits target settings m moments stop outcome ∧
      (∀ s, t.value = some (.ok s) ↔ outcome = .ok s) ∧
      (∀ s, outcome = .ok s →
        t.asked m = moments.map (fun m' => (m', .snapshot)) ∧
        ∃ last, moments.getLast? = some last ∧ Answers target last (.ok (some s))) ∧
      ∀ cause, outcome = .error cause → ∃ answer, Answers target stop answer ∧
        t.value = some (.error (.notReady (failureAt target settings cause stop answer))) ∧
        t.asked m =
          moments.map (fun m' => (m', .snapshot)) ++
            finallyAsked target settings stop answer := by
  intro t
  have hbounds := (Settings.check_eq_ok_iff settings).mp hsettings
  have hasks := asks_waitUntilReady (R := fun request => ∀ container argv,
    request ≠ .execute container argv) target settings (by simp) (by simp)
  refine ⟨fun call hcall => hasks.of_mem_calls hcall, ?_⟩
  obtain ⟨result, hresult⟩ := Option.isSome_iff_exists.mp
    (isSome_value_waitUntilReady m hsnapshots hlogs)
  obtain ⟨moments, stop, outcome, hwaits, hok, herror⟩ :=
    waitUntilReady_tells hbounds hresult
  refine ⟨moments, stop, outcome, hwaits, ?_, ?_, ?_⟩
  · intro s
    rw [show t.value = some result from hresult]
    cases outcome with
    | ok found =>
        obtain ⟨rfl, -⟩ := hok found rfl
        simp
    | error cause =>
        obtain ⟨answer, -, rfl, -⟩ := herror cause rfl
        simp
  · rintro s rfl
    exact ⟨(hok s rfl).2, hwaits.exists_last_of_ok⟩
  · rintro cause rfl
    obtain ⟨answer, hanswer, rfl, hasked⟩ := herror cause rfl
    exact ⟨answer, hanswer, hresult, hasked⟩

/-- A target that is busy at first and then starts without ever being ready, and whose log cannot be
read. -/
def startingTarget : Target where
  name := "nb-0"
  onSnapshot m :=
    if m.past = [] then .after 5 (.error (.api "busy"))
    else .after 0 (.ok (some {
      name := "nb-0", phase := .pending, containers := [{ name := "nb" }] }))
  onExecute _ _ _ := .never
  onLog _ _ _ := .after 2 (.error (.api "gone"))

theorem waitUntilReady_of_starting_target :
    let settings : Settings := { readinessTimeout := 2, pollInterval := 1 }
    settings.check = .ok () ∧
    ∃ moments stop cause answer,
      Waits startingTarget settings ⟨0, []⟩ moments stop (.error cause) ∧
        Answers startingTarget stop answer ∧
        ((waitUntilReady startingTarget settings).run ⟨0, []⟩).value =
          some (.error (.notReady (failureAt startingTarget settings cause stop answer))) := by
  intro settings
  have hcheck : settings.check = .ok () := by decide +kernel
  obtain ⟨-, moments, stop, outcome, hwaits, hvalue, -, herror⟩ :=
    waitUntilReady_course startingTarget settings ⟨0, []⟩ hcheck
      (by intro m'; unfold startingTarget; dsimp only; split <;> simp)
      (by intro m' container; simp [startingTarget])
  refine ⟨hcheck, ?_⟩
  cases outcome with
  | ok s =>
      have hfails : ((waitUntilReady startingTarget settings).run ⟨0, []⟩).value.map
          Except.toOption = some none := by
        decide +kernel
      rw [(hvalue s).mpr rfl] at hfails
      cases hfails
  | error cause =>
      obtain ⟨answer, hanswer, hfailure, -⟩ := herror cause rfl
      exact ⟨moments, stop, cause, answer, hwaits, hanswer, hfailure⟩

end Readiness

end NotebookCheck

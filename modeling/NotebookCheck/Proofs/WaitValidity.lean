import NotebookCheck.Proofs.ConnectionWait
import NotebookCheck.Proofs.PollAttempts
import NotebookCheck.Proofs.ReadinessCourse
import NotebookCheck.Proofs.SuiteCourse

/-!
Settings that pass their check make no wait invalid.  Their bounds make pollers of all waits, none
of which makes more probes than it can count; so all that can come of a wait are what the target
answers and the end of its time, with the number of attempts that were made.
-/

namespace NotebookCheck

variable {α β : Type}

/-- Entries are those of polls for some operations: there are no more probes for each of them than
valid bounds allow and none for any other, and the events tell how many there were so far. -/
structure PollsOnly (operations : List String) (entries : List Entry) : Prop where
  count_le : ∀ operation, entries.count (.count (.pollAttempts operation)) ≤ 7201
  count_eq : ∀ operation, operation ∉ operations →
    entries.count (.count (.pollAttempts operation)) = 0
  tells : ∀ operation earlier, (operation ∈ operations → earlier = 0) →
    TellsExactly operation earlier entries

def Entry.IsUnpolled : Entry → Prop
  | event e => e.IsPlain
  | count (.pollAttempts _) => False
  | count _ | call _ | sample _ _ | connect _ | print _ => True

namespace PollsOnly

variable {operations others : List String} {first second : List Entry}

theorem of_unpolled {entries : List Entry} (h : ∀ entry ∈ entries, entry.IsUnpolled) :
    PollsOnly [] entries := by
  have hnone : ∀ operation, entries.count (.count (.pollAttempts operation)) = 0 :=
    fun _ => List.count_eq_zero.mpr fun hentry => h _ hentry
  refine ⟨fun operation => (hnone operation).trans_le (Nat.zero_le _),
    fun operation _ => hnone operation, fun operation earlier _ => ?_⟩
  exact tellsExactly_of_forall fun e hentry attempts => (h _ hentry).not_tells _ _

theorem mono (h : PollsOnly operations first) (hsubset : operations ⊆ others) :
    PollsOnly others first :=
  ⟨h.count_le, fun operation hout => h.count_eq operation fun hin => hout (hsubset hin),
    fun operation earlier hearlier =>
      h.tells operation earlier fun hin => hearlier (hsubset hin)⟩

theorem append (hfirst : PollsOnly operations first) (hsecond : PollsOnly others second)
    (hdisjoint : ∀ operation ∈ operations, operation ∉ others) :
    PollsOnly (operations ++ others) (first ++ second) := by
  refine ⟨fun operation => ?_, fun operation hout => ?_, fun operation earlier hearlier => ?_⟩
  -- An operation is polled in one part only, so there is nothing to add to its count.
  · rw [List.count_append]
    by_cases hin : operation ∈ operations
    · rw [hsecond.count_eq operation (hdisjoint operation hin)]
      exact hfirst.count_le operation
    · rw [hfirst.count_eq operation hin, Nat.zero_add]
      exact hsecond.count_le operation
  · rw [List.mem_append, not_or] at hout
    rw [List.count_append, hfirst.count_eq operation hout.1, hsecond.count_eq operation hout.2]
  · refine (hfirst.tells operation earlier fun hin =>
      hearlier (List.mem_append_left _ hin)).append ?_
    refine hsecond.tells operation _ fun hin => ?_
    rw [hearlier (List.mem_append_right _ hin),
      hfirst.count_eq operation fun hpolled => hdisjoint operation hpolled hin]

end PollsOnly

/-- Work that polls some operations only, from whatever moment it starts. -/
def Work.Polls (operations : List String) (w : Work α) : Prop :=
  ∀ m, PollsOnly operations (w m).entries

section

variable {operations others : List String}

theorem Work.Polls.bind {w : Work α} {f : α → Work β} (hw : w.Polls operations)
    (hf : ∀ a, (f a).Polls others) (hdisjoint : ∀ operation ∈ operations, operation ∉ others) :
    (w >>= f).Polls (operations ++ others) := by
  intro m
  cases hvalue : (w m).value with
  | none =>
      rw [bind_of_none w f m hvalue]
      exact (hw m).mono (List.subset_append_left _ _)
  | some a =>
      rw [bind_of_value w f m hvalue]
      exact (hw m).append (hf a _) hdisjoint

theorem Attempt.polls_bind {w : Attempt α} {f : α → Attempt β}
    (hw : Work.Polls operations w.run) (hf : ∀ a, Work.Polls others (f a).run)
    (hdisjoint : ∀ operation ∈ operations, operation ∉ others) :
    Work.Polls (operations ++ others) (w >>= f).run := by
  rw [ExceptT.run_bind]
  refine hw.bind (fun result => ?_) hdisjoint
  cases result with
  | error fault =>
      exact fun m => (PollsOnly.of_unpolled (by simp [Work.pure_apply])).mono (List.nil_subset _)
  | ok a => exact hf a

end

/-- A fault is told truly by a trace from a moment on: it is an answer of the target, or the end of
the time for one of the operations, with the number of attempts that were made. -/
def Trace.TellsFault (t : Trace α) (target : Target) (m : Moment) (operations : List String)
    (fault : Fault) : Prop :=
  (∃ asked ∈ t.asked m, target.AnswersWith asked fault) ∨
    ∃ operation ∈ operations, ∃ elapsed budget,
      fault = .timeout operation elapsed budget (t.counted (.pollAttempts operation))

section

variable {target : Target} {operations others : List String} {m : Moment} {fault : Fault}
  {t : Trace α} {u : Trace β}

theorem Trace.TellsFault.followedBy (h : t.TellsFault target m operations fault)
    (hu : PollsOnly others u.entries)
    (hdisjoint : ∀ operation ∈ operations, operation ∉ others) :
    (t.followedBy u).TellsFault target m (operations ++ others) fault := by
  rcases h with ⟨asked, hasked, hanswer⟩ | ⟨operation, hin, elapsed, budget, hfault⟩
  · left
    rw [asked_followedBy]
    exact ⟨asked, List.mem_append_left _ hasked, hanswer⟩
  · right
    refine ⟨operation, List.mem_append_left _ hin, elapsed, budget, ?_⟩
    rw [hfault, counted_followedBy, counted, counted,
      hu.count_eq operation (hdisjoint operation hin), Nat.add_zero]

theorem Trace.TellsFault.after (h : u.TellsFault target (m.after t) others fault)
    (ht : PollsOnly operations t.entries)
    (hdisjoint : ∀ operation ∈ operations, operation ∉ others) :
    (t.followedBy u).TellsFault target m (operations ++ others) fault := by
  rcases h with ⟨asked, hasked, hanswer⟩ | ⟨operation, hin, elapsed, budget, hfault⟩
  · left
    rw [asked_followedBy]
    exact ⟨asked, List.mem_append_right _ hasked, hanswer⟩
  · right
    refine ⟨operation, List.mem_append_right _ hin, elapsed, budget, ?_⟩
    have hfirst := ht.count_eq operation fun hpolled => hdisjoint operation hpolled hin
    rw [hfault, counted_followedBy, counted, counted, hfirst, Nat.zero_add]

def Attempt.TellsFaults (target : Target) (operations : List String) (w : Attempt α) : Prop :=
  ∀ m fault, (w.run m).value = some (.error fault) →
    (w.run m).TellsFault target m operations fault

theorem Attempt.TellsFaults.bind {w : Attempt α} {f : α → Attempt β}
    (hw : TellsFaults target operations w) (hpolls : Work.Polls operations w.run)
    (hf : ∀ a, TellsFaults target others (f a))
    (hdisjoint : ∀ operation ∈ operations, operation ∉ others) :
    TellsFaults target (operations ++ others) (w >>= f) := by
  intro m fault h
  cases hvalue : (w.run m).value with
  | none =>
      rw [run_bind_of_none _ _ _ hvalue] at h
      cases h
  | some result =>
      cases result with
      | error found =>
          rw [run_bind_of_error _ _ _ hvalue] at h ⊢
          cases h
          exact (hw m fault hvalue).imp id fun ⟨operation, hin, htold⟩ =>
            ⟨operation, List.mem_append_left _ hin, htold⟩
      | ok a =>
          rw [run_bind_of_ok _ _ _ hvalue] at h ⊢
          exact (hf a _ fault h).after (hpolls m) hdisjoint

end

namespace Poller

variable {p : Poller} {target : Target} {probe : ℕ → Attempt (Tick α)}
  (hprobe : ∀ k, IsRequest target (probe k)) (hbounds : p.timeout / p.interval ≤ 7200)
include hprobe hbounds

theorem polls_runEach : Work.Polls [p.operation] (p.runEach probe).run := by
  intro m
  have hexact := isExact_runEach hprobe (hbounds.trans_lt (by decide)) m
  have hother := fun operation (h : operation ∉ [p.operation]) =>
    counted_of_ne hprobe (by simpa using h) m
  refine ⟨fun operation => ?_, hother, fun operation earlier hearlier => ?_⟩
  · by_cases hoperation : operation ∈ [p.operation]
    · rw [List.mem_singleton.mp hoperation]
      have hcounted := hexact.attempts_le
      rw [Nat.zero_add] at hcounted
      exact hcounted.trans (Nat.succ_le_succ hbounds)
    · exact (hother operation hoperation).trans_le (Nat.zero_le _)
  · exact hexact.tells operation earlier fun h => hearlier (List.mem_singleton.mpr h)

theorem tellsFaults_runEach : Attempt.TellsFaults target [p.operation] (p.runEach probe) := by
  intro m fault h
  have hexact := isExact_runEach hprobe (hbounds.trans_lt (by decide)) m
  refine (hexact.fault fault h).imp id ?_
  rintro ⟨ended, htold⟩
  rw [Nat.zero_add] at htold
  exact ⟨p.operation, List.mem_singleton_self _, ended, p.timeout, htold⟩

end Poller

theorem SnippetSuite.timeout_pos {name : String} {checks : List SnippetCheck}
    (h : ofName name = .ok checks) : ∀ check ∈ checks, 0 < check.timeout := by
  unfold ofName at h
  split at h <;> cases h <;> decide

namespace Settings

theorem millis_div_millis_le {timeout interval : ℕ} (htimeout : timeout ≤ maxReadinessTimeout)
    (hinterval : 0 < interval) : millis timeout / millis interval ≤ 7200 := by
  refine Nat.div_le_of_le_mul ?_
  calc millis timeout ≤ millis maxReadinessTimeout := Nat.mul_le_mul_right 1000 htimeout
    _ = 1 * 1000 * 7200 := rfl
    _ ≤ interval * 1000 * 7200 := Nat.mul_le_mul_right 7200 (Nat.mul_le_mul_right 1000 hinterval)

end Settings

namespace Readiness

variable (target : Target)

theorem isRequest_glance (stage : Stage) : Poller.IsRequest target (stage.glance target) := by
  constructor
  case calls =>
    intro m entry hentry
    rw [Stage.run_glance] at hentry
    exact ⟨_, List.mem_singleton.mp hentry⟩
  case fault =>
    intro m fault hfault
    rw [Stage.run_glance] at hfault
    obtain ⟨answer, hanswer, htick⟩ := Option.map_eq_some_iff.mp hfault
    rw [Stage.asked_glance]
    refine ⟨_, List.mem_singleton_self _, (answers_iff m _).mpr ?_⟩
    rw [hanswer, (stage.tick_eq_error_iff answer fault).mp htick]

theorem isRequest_tryOnce (container : String) :
    Poller.IsRequest target (Connection.tryOnce target container) := by
  constructor
  case calls =>
    intro m entry hentry
    rw [Connection.run_tryOnce] at hentry
    exact ⟨_, List.mem_singleton.mp hentry⟩
  case fault =>
    intro m fault hfault
    rw [Connection.run_tryOnce] at hfault ⊢
    refine ⟨(m, .execute container connectionProbe.argv), List.mem_singleton_self _, ?_⟩
    change ∃ delay, Connection.replyAt target container m = .after delay (.error fault)
    cases hreply : Connection.replyAt target container m with
    | never =>
        rw [hreply] at hfault
        cases hfault
    | after delay answer =>
        rw [hreply] at hfault
        cases answer with
        | ok output => cases hfault
        | error found =>
            cases hfault
            exact ⟨delay, rfl⟩

theorem polls_conclude (settings : Settings) (result : Except Fault Snapshot) :
    Work.Polls [] (conclude target settings result) :=
  fun m => .of_unpolled (records_conclude target settings result (fun _ hplain => hplain)
    (fun _ => trivial) (fun _ _ => trivial) m)

def noteEstablished (container : String) : Attempt Unit :=
  Work.note .info "exec connection established"
    [("target_name", .text target.name), ("container", .text container)]

theorem polls_noteEstablished (container : String) :
    Work.Polls [] (noteEstablished target container).run := by
  refine fun m => .of_unpolled (Attempt.records_lift (Work.records_record ?_) m)
  simp [Entry.IsUnpolled, Event.IsPlain]

theorem tellsFaults_noteEstablished (container : String) :
    Attempt.TellsFaults target [] (noteEstablished target container) :=
  fun m fault h => by cases h

section

variable {settings : Settings} (h : settings.InBounds)

theorem polls_stage (stage : Stage) :
    Work.Polls [stage.operation] ((stage.poller h).run (stage.glance target)).run :=
  Poller.polls_runEach (p := stage.poller h) (fun _ => isRequest_glance target stage)
    (Settings.millis_div_millis_le h.readinessTimeout.2 h.pollInterval.1)

theorem tellsFaults_stage (stage : Stage) :
    Attempt.TellsFaults target [stage.operation]
      ((stage.poller h).run (stage.glance target)) :=
  Poller.tellsFaults_runEach (p := stage.poller h) (fun _ => isRequest_glance target stage)
    (Settings.millis_div_millis_le h.readinessTimeout.2 h.pollInterval.1)

theorem polls_waitWith :
    Work.Polls ["pod existence", "pod ready"]
      (waitWith target (Stage.existence.poller h) (Stage.ready.poller h)).run := by
  rw [waitWith, Stage.waitForExistence_eq, Stage.waitForCondition_eq]
  exact Attempt.polls_bind (polls_stage target h Stage.existence)
    (fun _ => polls_stage target h Stage.ready) (by decide)

theorem tellsFaults_waitWith :
    Attempt.TellsFaults target ["pod existence", "pod ready"]
      (waitWith target (Stage.existence.poller h) (Stage.ready.poller h)) := by
  rw [waitWith, Stage.waitForExistence_eq, Stage.waitForCondition_eq]
  exact (tellsFaults_stage target h Stage.existence).bind (polls_stage target h Stage.existence)
    (fun _ => tellsFaults_stage target h Stage.ready) (by decide)

include h

theorem polls_waitUntilReady :
    Work.Polls ["pod existence", "pod ready"] (waitUntilReady target settings).run := by
  have hwait : (waitUntilReady target settings).run =
      ((waitWith target (Stage.existence.poller h) (Stage.ready.poller h)).outcome >>=
        conclude target settings) := funext (run_waitUntilReady h)
  rw [hwait]
  exact Work.Polls.bind (polls_waitWith target h) (polls_conclude target settings) (by simp)

/-- All that comes of a wait for readiness is a snapshot or that the target is not ready, and then
the cause is told truly. -/
theorem waitUntilReady_tells_cause {m : Moment} {result : Except Fault Snapshot}
    (hvalue : ((waitUntilReady target settings).run m).value = some result) :
    (∃ s, result = .ok s) ∨ ∃ failure cause, result = .error (.notReady failure) ∧
      failure.cause = cause.message ∧
      ((waitUntilReady target settings).run m).TellsFault target m ["pod existence", "pod ready"]
        cause := by
  rw [run_waitUntilReady h] at hvalue ⊢
  obtain ⟨outcome, houtcome, hend⟩ := (Work.value_bind_eq_some_iff _ _ _ _).mp hvalue
  cases outcome with
  | ok s =>
      rw [conclude_ok] at hend
      cases hend
      exact .inl ⟨s, rfl⟩
  | error cause =>
      right
      rw [value_conclude_error] at hend
      obtain ⟨failure, hfailure, rfl⟩ := Option.map_eq_some_iff.mp hend
      obtain ⟨answer, -, rfl, -⟩ := describeFailure_tells target settings hfailure
      refine ⟨_, cause, rfl, rfl, ?_⟩
      rw [Work.bind_of_value _ _ _ houtcome]
      exact (tellsFaults_waitWith target h m cause houtcome).followedBy
        (polls_conclude target settings (.error cause) _) (by simp)

theorem polls_poll_connection (container : String) :
    Work.Polls ["exec connection"]
      ((Connection.poller h).run (Connection.tryOnce target container)).run :=
  Poller.polls_runEach (p := Connection.poller h) (fun _ => isRequest_tryOnce target container)
    (Settings.millis_div_millis_le h.connectionTimeout.2 h.connectionPollInterval.1)

theorem tellsFaults_poll_connection (container : String) :
    Attempt.TellsFaults target ["exec connection"]
      ((Connection.poller h).run (Connection.tryOnce target container)) :=
  Poller.tellsFaults_runEach (p := Connection.poller h)
    (fun _ => isRequest_tryOnce target container)
    (Settings.millis_div_millis_le h.connectionTimeout.2 h.connectionPollInterval.1)

theorem polls_waitForConnection (container : String) :
    Work.Polls ["exec connection"] (waitForConnection target container settings).run := by
  intro m
  rw [Connection.run_waitForConnection target container h]
  exact Attempt.polls_bind (polls_poll_connection target h container)
    (fun _ => polls_noteEstablished target container) (by simp) m

theorem tellsFaults_waitForConnection (container : String) :
    Attempt.TellsFaults target ["exec connection"]
      (waitForConnection target container settings) := by
  intro m
  rw [Connection.run_waitForConnection target container h]
  exact (tellsFaults_poll_connection target h container).bind
    (polls_poll_connection target h container)
    (fun _ => tellsFaults_noteEstablished target container) (by simp) m

end

/-- Settings that pass their check make no wait invalid, whatever a target answers, and if it does.
They make pollers of all waits.  A wait is over exactly if all its requests are answered.  A wait
for readiness then gives a snapshot or says that the target is not ready, and a wait for a
connection fails only with an answer of the target or the end of its time.  Neither makes more than
7201 probes in a poll, and all numbers of attempts that are told are exact, in events and in faults.
A snippet with a positive limit always has an outcome, and a suite of such checks, as those that are
built in are, only fails if its deadline has passed. -/
theorem waits_of_valid_settings (settings : Settings) (container : String) (m : Moment)
    (hcheck : settings.check = .ok ()) :
    let ready := (waitUntilReady target settings).run m
    let connected := (waitForConnection target container settings).run m
    (∀ operation, (∃ p, readinessPoller settings operation = .ok p) ∧
      ∃ p, Poller.ofBounds operation (Settings.millis settings.connectionPollInterval)
        (Settings.millis settings.connectionTimeout) = .ok p) ∧
    (ready.value = none ↔ ∃ asked ∈ ready.asked m, target.Ignores asked) ∧
    (connected.value = none ↔ ∃ asked ∈ connected.asked m, target.Ignores asked) ∧
    (∀ result, ready.value = some result → (∃ s, result = .ok s) ∨
      ∃ failure cause, result = .error (.notReady failure) ∧ failure.cause = cause.message ∧
        ready.TellsFault target m ["pod existence", "pod ready"] cause) ∧
    (∀ fault, connected.value = some (.error fault) →
      connected.TellsFault target m ["exec connection"] fault) ∧
    PollsOnly ["pod existence", "pod ready"] ready.entries ∧
    PollsOnly ["exec connection"] connected.entries ∧
    (∀ code timeout, 0 < timeout → ∃ outcome,
      ((Snippet.run target settings container code timeout).run m).value = some (.ok outcome)) ∧
    (∀ checks deadline, (∀ check ∈ checks, 0 < check.timeout) → ∃ result next,
      (Snippet.runSuite target settings container checks deadline m).value =
          some (result, next) ∧
        ∀ fault, result = .error fault → ∃ operation elapsed attempts,
          fault = .timeout operation elapsed deadline.budget attempts) ∧
    ∀ name checks, SnippetSuite.ofName name = .ok checks →
      ∀ check ∈ checks, 0 < check.timeout := by
  intro ready connected
  have h := (Settings.check_eq_ok_iff settings).mp hcheck
  refine ⟨fun operation => ⟨⟨_, Stage.readinessPoller_eq_ok ⟨operation, fun _ => true⟩ h⟩, _,
      Poller.ofBounds_of_pos operation (Settings.millis_pos h.connectionPollInterval.1)
        (Settings.millis_pos h.connectionTimeout.1)⟩,
    endsIfAnswered_waitUntilReady target settings m,
    endsIfAnswered_waitForConnection target settings container m,
    fun result hresult => waitUntilReady_tells_cause target h hresult,
    tellsFaults_waitForConnection target h container m, polls_waitUntilReady target h m,
    polls_waitForConnection target h container m, ?_, ?_, fun _ _ => SnippetSuite.timeout_pos⟩
  · intro code timeout htimeout
    exact Snippet.exists_outcome_run target container h.snippetRetryInterval.1 code htimeout m
  · intro checks deadline htimeouts
    exact Snippet.exists_result_runSuite target container h.snippetRetryInterval.1 checks
      htimeouts deadline m

theorem waits_of_starting_target :
    let settings : Settings := { readinessTimeout := 2, pollInterval := 1 }
    let ready := (waitUntilReady startingTarget settings).run ⟨0, []⟩
    settings.check = .ok () ∧ PollsOnly ["pod existence", "pod ready"] ready.entries ∧
      ∃ failure cause, ready.value = some (.error (.notReady failure)) ∧
        failure.cause = cause.message ∧
        ready.TellsFault startingTarget ⟨0, []⟩ ["pod existence", "pod ready"] cause := by
  intro settings ready
  have hcheck : settings.check = .ok () := by decide +kernel
  have hfails : ready.value.map Except.toOption = some none := by decide +kernel
  obtain ⟨-, -, -, hready, -, hpolls, -⟩ :=
    waits_of_valid_settings startingTarget settings "nb" ⟨0, []⟩ hcheck
  obtain ⟨result, hresult, hnone⟩ := Option.map_eq_some_iff.mp hfails
  refine ⟨hcheck, hpolls, ?_⟩
  rcases hready result hresult with ⟨s, rfl⟩ | ⟨failure, cause, rfl, hcause, htold⟩
  · cases hnone
  · exact ⟨failure, cause, hresult, hcause, htold⟩

end Readiness

end NotebookCheck

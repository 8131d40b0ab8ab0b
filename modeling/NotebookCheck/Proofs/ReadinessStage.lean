import NotebookCheck.Proofs.PollCourse
import NotebookCheck.Proofs.Reply
import NotebookCheck.Proofs.SettingsBounds
import NotebookCheck.Readiness

namespace NotebookCheck.Readiness

/-- A stage of a wait: the name of its operation, and the snapshots that it waits for. -/
structure Stage where
  operation : String
  accepts : Snapshot → Bool

def Stage.existence : Stage := ⟨"pod existence", fun _ => true⟩

def Stage.ready : Stage := ⟨"pod ready", fun s => s.conditionStatus? "Ready" = some "True"⟩

section Snapshots

variable (target : Target) (settings : Settings)

/-- The answer of the target to the request of a snapshot at a moment. -/
def Answers (m : Moment) (answer : Except Fault (Option Snapshot)) : Prop :=
  ∃ delay, target.onSnapshot m = .after delay answer

def answeredAt (m : Moment) : Moment :=
  ⟨m.now + (target.onSnapshot m).delay, ⟨m.now, .snapshot⟩ :: m.past⟩

/-- The moments at which snapshots are taken one after the other, with a pause of an interval. -/
def takenAt (start : Moment) : ℕ → Moment
  | 0 => start
  | k + 1 =>
      let m := answeredAt target (takenAt start k)
      { m with now := m.now + Settings.millis settings.pollInterval }

/-- The moments of the snapshots of a stage that starts at a moment, up to the one with the given
number. -/
def takenUpTo (start : Moment) (n : ℕ) : List Moment :=
  (List.range (n + 1)).map (takenAt target settings start)

variable {target}

theorem answers_iff (m : Moment) (answer : Except Fault (Option Snapshot)) :
    Answers target m answer ↔ (target.onSnapshot m).answer? = some answer := by
  unfold Answers
  cases target.onSnapshot m <;> simp [Reply.answer?]

theorem Answers.unique {m : Moment} {answer other : Except Fault (Option Snapshot)}
    (h : Answers target m answer) (hother : Answers target m other) : answer = other := by
  obtain ⟨delay, hdelay⟩ := h
  obtain ⟨delay', hdelay'⟩ := hother
  cases hdelay.symm.trans hdelay'
  rfl

end Snapshots

namespace Stage

section

variable (stage : Stage) (target : Target) (settings : Settings) (start : Moment)

/-- A stage ends with a snapshot that it accepts, with a fault that is not one of the api, and with
an answer after which another snapshot would be taken past its time. -/
def EndsAt (k : ℕ) : Prop :=
  (∃ s, Answers target (takenAt target settings start k) (.ok (some s)) ∧
      stage.accepts s = true) ∨
    (∃ fault, Answers target (takenAt target settings start k) (.error fault) ∧
      fault.kind ≠ .api) ∨
    start.now + Settings.millis settings.readinessTimeout <
      (takenAt target settings start (k + 1)).now

/-- The fault of a stage that runs out of time with its snapshot of the given number. -/
def timeoutFault (n : ℕ) : Fault :=
  .timeout stage.operation
    ((answeredAt target (takenAt target settings start n)).now - start.now)
    (Settings.millis settings.readinessTimeout) (min (n + 1) maxAttempts)

def outcome (n : ℕ) : Except Fault (Option Snapshot) → Except Fault Snapshot
  | .ok (some s) =>
      if stage.accepts s then .ok s
      else .error (stage.timeoutFault target settings start n)
  | .ok none => .error (stage.timeoutFault target settings start n)
  | .error fault =>
      if fault.kind = .api then .error (stage.timeoutFault target settings start n)
      else .error fault

/-- A stage goes up to its snapshot of the given number, the first one with which it ends, and has
the given outcome. -/
structure Goes (n : ℕ) (result : Except Fault Snapshot) : Prop where
  isLeast : IsLeast {k | stage.EndsAt target settings start k} n
  answered : ∀ k ≤ n, target.onSnapshot (takenAt target settings start k) ≠ .never
  result_eq : ∃ answer, Answers target (takenAt target settings start n) answer ∧
    stage.outcome target settings start n answer = result

end

def glance (stage : Stage) (target : Target) : Attempt (Tick Snapshot) := do
  return .ofOption ((← target.snapshot).filter stage.accepts)

def tick (stage : Stage) : Except Fault (Option Snapshot) → Except Fault (Tick Snapshot) :=
  Except.map fun found => .ofOption (found.filter stage.accepts)

def poller (stage : Stage) {settings : Settings} (h : settings.InBounds) : Poller where
  operation := stage.operation
  interval := Settings.millis settings.pollInterval
  timeout := Settings.millis settings.readinessTimeout
  ignorable := [.api]
  interval_pos := Settings.millis_pos h.pollInterval.1
  timeout_pos := Settings.millis_pos h.readinessTimeout.1

theorem readinessPoller_eq_ok (stage : Stage) {settings : Settings} (h : settings.InBounds) :
    readinessPoller settings stage.operation = .ok (stage.poller h) := by
  rw [readinessPoller, Poller.ofBounds_of_pos _ (Settings.millis_pos h.pollInterval.1)
    (Settings.millis_pos h.readinessTimeout.1)]
  rfl

theorem waitForExistence_eq (target : Target) (p : Poller) :
    waitForExistence target p = p.run (existence.glance target) := by
  have hfilter : ∀ found : Option Snapshot, found.filter (fun _ => true) = found := by
    intro found
    cases found <;> rfl
  simp only [waitForExistence, glance, existence, hfilter]

theorem waitForCondition_eq (target : Target) (p : Poller) :
    waitForCondition target readyCondition conditionTrue p = p.run (ready.glance target) := rfl

variable (stage : Stage) (target : Target)

theorem run_glance (m : Moment) :
    (stage.glance target).run m =
      ⟨(target.onSnapshot m).answer?.map stage.tick, (target.onSnapshot m).delay,
        [.call ⟨m.now, .snapshot⟩]⟩ := by
  rw [glance, Attempt.run_bind_pure, Target.snapshot, Target.run_await_eq]
  rfl

theorem asked_glance (m : Moment) :
    ((stage.glance target).run m).asked m = [(m, .snapshot)] := by
  rw [run_glance]
  rfl

theorem after_glance (m : Moment) :
    m.after ((stage.glance target).run m) = answeredAt target m := by
  rw [run_glance]
  rfl

variable {settings : Settings} (h : settings.InBounds) (start : Moment)

theorem momentOf_eq_takenAt (k : ℕ) :
    (stage.poller h).momentOf (fun _ => stage.glance target) start k =
      takenAt target settings start k := by
  induction k with
  | zero => rfl
  | succ k ih =>
      simp only [Poller.momentOf, ih, run_glance]
      rfl

theorem probeTrace_eq (k : ℕ) :
    (stage.poller h).probeTrace (fun _ => stage.glance target) start k =
      (stage.glance target).run (takenAt target settings start k) := by
  rw [Poller.probeTrace, momentOf_eq_takenAt]

theorem isSome_value_probeTrace_iff (k : ℕ) :
    ((stage.poller h).probeTrace (fun _ => stage.glance target) start k).value.isSome = true ↔
      target.onSnapshot (takenAt target settings start k) ≠ .never := by
  rw [probeTrace_eq, run_glance]
  cases target.onSnapshot (takenAt target settings start k) <;> simp [Reply.answer?]

theorem answerOf_eq (k : ℕ) :
    (stage.poller h).answerOf (fun _ => stage.glance target) start k =
      ((target.onSnapshot (takenAt target settings start k)).answer?.map stage.tick).getD
        (.ok .pending) := by
  rw [Poller.answerOf, probeTrace_eq, run_glance]

theorem now_answeredAt_takenAt (k : ℕ) :
    (answeredAt target (takenAt target settings start k)).now =
      start.now + Poller.endOf (stage.poller h).interval
        ((stage.poller h).delayOf (fun _ => stage.glance target) start) k := by
  have hnow := (stage.poller h).momentOf_now (fun _ => stage.glance target) start k
  rw [momentOf_eq_takenAt] at hnow
  rw [answeredAt, Poller.endOf, hnow, Poller.delayOf, probeTrace_eq, run_glance, Nat.add_assoc]

theorem tick_some (s : Snapshot) :
    stage.tick (.ok (some s)) = .ok (if stage.accepts s then .satisfied s else .pending) := by
  simp only [tick, Except.map, Option.filter_some]
  split <;> rfl

theorem tick_eq_satisfied_iff (answer : Except Fault (Option Snapshot)) (s : Snapshot) :
    stage.tick answer = .ok (.satisfied s) ↔
      answer = .ok (some s) ∧ stage.accepts s = true := by
  cases answer with
  | error fault => simp [tick, Except.map]
  | ok found =>
      cases found with
      | none => simp [tick, Except.map, Tick.ofOption]
      | some found =>
          rw [tick_some]
          by_cases haccepts : stage.accepts found = true
          · rw [if_pos haccepts]
            constructor
            · intro h
              cases h
              exact ⟨rfl, haccepts⟩
            · rintro ⟨h, -⟩
              cases h
              rfl
          · rw [if_neg haccepts]
            constructor
            · intro h
              cases h
            · rintro ⟨h, hs⟩
              cases h
              exact absurd hs haccepts

theorem tick_eq_error_iff (answer : Except Fault (Option Snapshot)) (fault : Fault) :
    stage.tick answer = .error fault ↔ answer = .error fault := by
  cases answer <;> simp [tick, Except.map]

theorem endsAt_iff (k : ℕ) :
    (stage.poller h).EndsAt ((stage.poller h).delayOf (fun _ => stage.glance target) start)
        ((stage.poller h).answerOf (fun _ => stage.glance target) start) k ↔
      stage.EndsAt target settings start k := by
  have hlate : (takenAt target settings start (k + 1)).now =
      start.now + Poller.endOf (stage.poller h).interval
        ((stage.poller h).delayOf (fun _ => stage.glance target) start) k +
          (stage.poller h).interval := by
    rw [← now_answeredAt_takenAt]
    rfl
  have htimeout : (stage.poller h).timeout = Settings.millis settings.readinessTimeout := rfl
  have hignorable : (stage.poller h).ignorable = [.api] := rfl
  unfold Poller.EndsAt EndsAt
  rw [hlate, Nat.add_assoc, Nat.add_lt_add_iff_left, ← htimeout, answerOf_eq, hignorable]
  simp only [answers_iff, List.mem_singleton]
  cases (target.onSnapshot (takenAt target settings start k)).answer? with
  | none => simp
  | some answer => simp [tick_eq_satisfied_iff, tick_eq_error_iff]

theorem isLast_iff (n : ℕ) :
    (stage.poller h).IsLast (fun _ => stage.glance target) start n ↔
      IsLeast {k | stage.EndsAt target settings start k} n := by
  simp only [Poller.IsLast, endsAt_iff]

theorem outcome_eq {n : ℕ} {answer : Except Fault (Option Snapshot)}
    (hanswer : Answers target (takenAt target settings start n) answer) :
    (stage.poller h).outcome n
        (Poller.endOf (stage.poller h).interval
          ((stage.poller h).delayOf (fun _ => stage.glance target) start) n)
        ((stage.poller h).answerOf (fun _ => stage.glance target) start n) =
      stage.outcome target settings start n answer := by
  have hfault : (stage.poller h).timeoutFault n (Poller.endOf (stage.poller h).interval
      ((stage.poller h).delayOf (fun _ => stage.glance target) start) n) =
        stage.timeoutFault target settings start n := by
    rw [timeoutFault, now_answeredAt_takenAt stage target h, Nat.add_sub_cancel_left]
    rfl
  rw [answerOf_eq, (answers_iff _ _).mp hanswer, Option.map_some, Option.getD_some]
  cases answer with
  | error fault =>
      have hignorable : (stage.poller h).ignorable = [.api] := rfl
      simp only [tick, Except.map, Poller.outcome, outcome, hfault, hignorable,
        List.mem_singleton]
  | ok found =>
      cases found with
      | none => exact congrArg Except.error hfault
      | some s =>
          rw [tick_some, outcome]
          split
          · rfl
          · exact congrArg Except.error hfault

variable {stage target start} {n : ℕ} {result : Except Fault Snapshot}

theorem Goes.isLast (hgoes : stage.Goes target settings start n result) :
    (stage.poller h).IsLast (fun _ => stage.glance target) start n :=
  (isLast_iff stage target h start n).mpr hgoes.isLeast

theorem Goes.isSome_value (hgoes : stage.Goes target settings start n result) :
    ∀ k ≤ n, ((stage.poller h).probeTrace (fun _ => stage.glance target) start k).value.isSome =
      true :=
  fun k hk => (isSome_value_probeTrace_iff stage target h start k).mpr (hgoes.answered k hk)

theorem value_run_eq_some_iff :
    (((stage.poller h).run (stage.glance target)).run start).value = some result ↔
      ∃ n, stage.Goes target settings start n result := by
  obtain ⟨n, hlast⟩ := (stage.poller h).exists_isLast (fun _ => stage.glance target) start
  have hleast := (isLast_iff stage target h start n).mp hlast
  rw [Poller.run, Poller.value_runEach_eq_some_iff hlast]
  constructor
  · rintro ⟨hanswers, hresult⟩
    have hanswered := fun k hk =>
      (isSome_value_probeTrace_iff stage target h start k).mp (hanswers k hk)
    cases hreply : target.onSnapshot (takenAt target settings start n) with
    | never => exact absurd hreply (hanswered n le_rfl)
    | after delay answer =>
        rw [outcome_eq stage target h start ⟨delay, hreply⟩] at hresult
        exact ⟨n, hleast, hanswered, answer, ⟨delay, hreply⟩, hresult⟩
  · rintro ⟨k, hgoes⟩
    obtain rfl : k = n := hgoes.isLeast.unique hleast
    obtain ⟨answer, hanswer, hresult⟩ := hgoes.result_eq
    exact ⟨hgoes.isSome_value h, (outcome_eq stage target h start hanswer).trans hresult⟩

theorem asked_run (hgoes : stage.Goes target settings start n result) :
    (((stage.poller h).run (stage.glance target)).run start).asked start =
      (takenUpTo target settings start n).map fun m => (m, .snapshot) := by
  rw [Poller.run, Poller.asked_runEach (hgoes.isLast h) (hgoes.isSome_value h), takenUpTo,
    List.map_map, List.map_eq_flatMap]
  simp only [momentOf_eq_takenAt, probeTrace_eq, asked_glance, Function.comp_apply]

theorem after_run (hgoes : stage.Goes target settings start n result) :
    start.after (((stage.poller h).run (stage.glance target)).run start) =
      answeredAt target (takenAt target settings start n) := by
  rw [Poller.run, Poller.after_runEach (hgoes.isLast h) (hgoes.isSome_value h),
    momentOf_eq_takenAt, probeTrace_eq, after_glance]

end Stage

end NotebookCheck.Readiness

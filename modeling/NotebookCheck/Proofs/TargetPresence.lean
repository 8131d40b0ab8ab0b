import NotebookCheck.Proofs.ReadinessCourse

/-!
Whether a target that did not become ready is said to have been created.  The one snapshot after the
wait decides that, and none of those before: a target that was seen and is gone by then is said not
to have been created.
-/

namespace NotebookCheck

/-- One moment is no later than another one of the same course of calls. -/
def Moment.Precedes (m m' : Moment) : Prop := m.now ≤ m'.now ∧ m.past <:+ m'.past

theorem Moment.Precedes.refl (m : Moment) : m.Precedes m := ⟨le_rfl, List.suffix_refl _⟩

theorem Moment.Precedes.trans {m m' m'' : Moment} (h : m.Precedes m') (h' : m'.Precedes m'') :
    m.Precedes m'' :=
  ⟨h.1.trans h'.1, h.2.trans h'.2⟩

namespace Readiness

def Present (target : Target) (m : Moment) : Prop := ∃ s, Answers target m (.ok (some s))

/-- Once the target is there, it is there in every later snapshot. -/
def Stays (target : Target) : Prop :=
  ∀ m m', m.Precedes m' → Present target m → Present target m'

variable {target : Target} {settings : Settings}

theorem precedes_answeredAt (m : Moment) : m.Precedes (answeredAt target m) :=
  ⟨Nat.le_add_right _ _, List.suffix_cons _ _⟩

theorem precedes_takenAt_succ (start : Moment) (k : ℕ) :
    (answeredAt target (takenAt target settings start k)).Precedes
      (takenAt target settings start (k + 1)) :=
  ⟨Nat.le_add_right _ _, List.suffix_refl _⟩

theorem precedes_takenAt (start : Moment) {j k : ℕ} (h : j ≤ k) :
    (takenAt target settings start j).Precedes (takenAt target settings start k) := by
  induction k, h using Nat.le_induction with
  | base => exact .refl _
  | succ k _ ih =>
      exact ih.trans ((precedes_answeredAt _).trans (precedes_takenAt_succ start k))

theorem precedes_of_mem_takenUpTo {start m : Moment} {n : ℕ}
    (h : m ∈ takenUpTo target settings start n) :
    m.Precedes (answeredAt target (takenAt target settings start n)) := by
  obtain ⟨k, hk, rfl⟩ := List.mem_map.mp h
  have hle : k ≤ n := Nat.le_of_lt_succ (List.mem_range.mp hk)
  exact (precedes_takenAt start hle).trans (precedes_answeredAt _)

theorem Waits.precedes {start stop m : Moment} {moments : List Moment}
    {result : Except Fault Snapshot} (h : Waits target settings start moments stop result)
    (hm : m ∈ moments) : m.Precedes stop := by
  cases h with
  | absent hfirst => exact precedes_of_mem_takenUpTo hm
  | @present n k s next result hfirst hnext hsecond =>
      rcases List.mem_append.mp hm with hbefore | hafter
      · -- A snapshot of the first stage is taken before the second stage starts.
        have hend := precedes_of_mem_takenUpTo hbefore
        rw [← hnext] at hend
        have hstart : next.Precedes (takenAt target settings next k) :=
          precedes_takenAt next (Nat.zero_le k)
        exact hend.trans (hstart.trans (precedes_answeredAt _))
      · exact precedes_of_mem_takenUpTo hafter

theorem wasCreated_failureAt_iff {cause : Fault} {m : Moment}
    {answer : Except Fault (Option Snapshot)} (h : Answers target m answer) :
    (failureAt target settings cause m answer).wasCreated = true ↔ Present target m := by
  have hpresent : Present target m ↔ ∃ s, answer = .ok (some s) := by
    constructor
    · rintro ⟨s, hs⟩
      exact ⟨s, h.unique hs⟩
    · rintro ⟨s, rfl⟩
      exact ⟨s, h⟩
  rw [hpresent, ReadinessFailure.wasCreated, failureAt, Option.isSome_map]
  match answer with
  | .error fault => simp [found?]
  | .ok none => simp [found?]
  | .ok (some s) => simp [found?]

theorem message_of_not_wasCreated {failure : ReadinessFailure}
    (h : failure.wasCreated = false) :
    failure.message = "'" ++ failure.target ++
      "' was not created. Check notebook controller logs. (cause: " ++ failure.cause ++ ")" := by
  have hphase : failure.phase = none := by simpa [ReadinessFailure.wasCreated] using h
  rw [ReadinessFailure.message, hphase]
  rfl

def created? : Except Fault Snapshot → Option Bool
  | .error (.notReady failure) => some failure.wasCreated
  | _ => none

/-- A target that did not become ready is said to have been created exactly if it is there in the
one snapshot after the wait.  So one that stays, once it is there, is never said not to have been
created after it was seen. -/
theorem wasCreated_iff_present_at_end (target : Target) (settings : Settings) (m : Moment)
    (fault : Fault) (hsettings : settings.check = .ok ())
    (h : ((waitUntilReady target settings).run m).value = some (.error fault)) :
    ∃ failure moments stop cause answer,
      fault = .notReady failure ∧
      Waits target settings m moments stop (.error cause) ∧
      ((waitUntilReady target settings).run m).asked m =
        moments.map (fun m' => (m', .snapshot)) ++ finallyAsked target settings stop answer ∧
      (failure.wasCreated = true ↔ Present target stop) ∧
      (failure.wasCreated = false →
        failure.message = "'" ++ target.name ++
          "' was not created. Check notebook controller logs. (cause: " ++ cause.message ++
            ")") ∧
      (Stays target → (∃ m' ∈ moments, Present target m') → failure.wasCreated = true) := by
  have hbounds := (Settings.check_eq_ok_iff settings).mp hsettings
  obtain ⟨moments, stop, outcome, hwaits, hok, herror⟩ := waitUntilReady_tells hbounds h
  cases outcome with
  | ok s => cases (hok s rfl).1
  | error cause =>
      obtain ⟨answer, hanswer, hfault, hasked⟩ := herror cause rfl
      cases hfault
      have hcreated : (failureAt target settings cause stop answer).wasCreated = true ↔
          Present target stop := wasCreated_failureAt_iff hanswer
      refine ⟨_, moments, stop, cause, answer, rfl, hwaits, hasked, hcreated,
        message_of_not_wasCreated, ?_⟩
      rintro hstays ⟨m', hm', hpresent⟩
      exact hcreated.mpr (hstays m' stop (hwaits.precedes hm') hpresent)

theorem wasCreated_of_starting_target :
    let settings : Settings := { readinessTimeout := 2, pollInterval := 1 }
    settings.check = .ok () ∧
    ∃ failure moments stop cause,
      ((waitUntilReady startingTarget settings).run ⟨0, []⟩).value =
        some (.error (.notReady failure)) ∧
      Waits startingTarget settings ⟨0, []⟩ moments stop (.error cause) ∧
      failure.wasCreated = true ∧ Present startingTarget stop := by
  intro settings
  have hcheck : settings.check = .ok () := by decide +kernel
  refine ⟨hcheck, ?_⟩
  have hcreated : ((waitUntilReady startingTarget settings).run ⟨0, []⟩).value.bind created? =
      some true := by
    decide +kernel
  match hvalue : ((waitUntilReady startingTarget settings).run ⟨0, []⟩).value with
  | none => rw [hvalue] at hcreated; cases hcreated
  | some (.ok s) => rw [hvalue] at hcreated; cases hcreated
  | some (.error fault) =>
      obtain ⟨failure, moments, stop, cause, -, rfl, hwaits, -, hpresent, -⟩ :=
        wasCreated_iff_present_at_end startingTarget settings ⟨0, []⟩ fault hcheck hvalue
      rw [hvalue] at hcreated
      have htrue : failure.wasCreated = true := Option.some_inj.mp hcreated
      exact ⟨failure, moments, stop, cause, rfl, hwaits, htrue, hpresent.mp htrue⟩

def fleetingTarget : Target where
  name := "nb-0"
  onSnapshot m :=
    .after 0 (.ok (if m.past = [] then some { name := "nb-0", phase := .pending } else none))
  onExecute _ _ _ := .never
  onLog _ _ _ := .never

/-- A target that was seen is said not to have been created if it is gone by the end. -/
theorem waitUntilReady_of_fleeting_target :
    let settings : Settings := { readinessTimeout := 1, pollInterval := 1 }
    let t := (waitUntilReady fleetingTarget settings).run ⟨0, []⟩
    settings.check = .ok () ∧
    t.calls = [⟨0, .snapshot⟩, ⟨0, .snapshot⟩, ⟨1000, .snapshot⟩, ⟨1000, .snapshot⟩] ∧
    Present fleetingTarget ⟨0, []⟩ ∧
    ∃ failure, t.value = some (.error (.notReady failure)) ∧ failure.wasCreated = false ∧
      failure.message = "'nb-0' was not created. Check notebook controller logs. " ++
        "(cause: pod ready timed out after 1.00s (limit: 1s, attempts: 2))" := by
  intro settings t
  refine ⟨by decide +kernel, by decide +kernel, ?_, ?_⟩
  · exact ⟨{ name := "nb-0", phase := .pending }, 0, rfl⟩
  · exact ⟨{
      target := "nb-0", phase := none, details := none
      cause := "pod ready timed out after 1.00s (limit: 1s, attempts: 2)"
      timeout := 1000 }, by decide +kernel, rfl, by decide +kernel⟩

end Readiness

end NotebookCheck

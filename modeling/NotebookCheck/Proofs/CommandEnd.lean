import NotebookCheck.CommandLine.Run
import NotebookCheck.Proofs.PackageName
import NotebookCheck.Proofs.Requests

namespace NotebookCheck

def Entry.text? : Entry → Option String
  | print text => some text
  | _ => none

def Trace.prints {α : Type} (t : Trace α) : List String := t.entries.filterMap Entry.text?

@[simp] theorem Trace.prints_followedBy {α β : Type} (t : Trace α) (u : Trace β) :
    (t.followedBy u).prints = t.prints ++ u.prints := by
  simp [prints]

def Entry.IsSilent (entry : Entry) : Prop := entry.text? = none

theorem Entry.Asks.isSilent {R : Request → Prop} {entry : Entry} (h : entry.Asks R) :
    entry.IsSilent := by
  cases entry with
  | call _ | count _ | sample _ _ | event _ => rfl
  | connect _ | print _ => exact h.elim

theorem Work.Asks.isSilent {α : Type} {R : Request → Prop} {w : Work α} (h : w.Asks R) :
    w.Records Entry.IsSilent :=
  h.mono fun _ => Entry.Asks.isSilent

theorem Work.Records.prints_eq_nil {α : Type} {w : Work α} (h : w.Records Entry.IsSilent)
    (m : Moment) : (w m).prints = [] :=
  List.filterMap_eq_nil_iff.mpr (h m)

def FaultKind.exitCode : FaultKind → ℕ
  | validation | precondition => 4
  | timeout | readiness => 6
  | config => 2
  | execution | diagnosticCollection | api | connection => 1

namespace CommandLine

def exitCodeOf : Except Failure Unit → ℕ
  | .ok () => 0
  | .error f => f.exitCode

theorem exitCodeOf_ofFault (fault : Fault) :
    exitCodeOf (.error (.ofFault fault)) = fault.kind.exitCode := by
  simp only [exitCodeOf, Failure.ofFault]
  cases fault.kind <;> rfl

theorem Failure.ofFault_ne_verification (fault : Fault) (summary : String) :
    ofFault fault ≠ .verification summary := by
  unfold ofFault
  cases fault.kind <;> exact Failure.noConfusion

/-- How a command ends that examines a target: it is refused with an exit code, it reports whether
each thing that it looked at is as it should be, or it never ends. -/
inductive Ended where
  | refused (code : ℕ)
  | reported (flags : List Bool)
  | unending

/-- What is left by a command that ends in a way, where printed text tells something. -/
def Ended.LeftBy (told : String → List Bool) (t : Trace (Except Failure Unit)) : Ended → Prop
  | refused code => t.prints = [] ∧ t.value.map exitCodeOf = some code
  | reported flags => ∃ text, t.prints = [text] ∧ told text = flags
  | unending => t.prints = [] ∧ t.value = none

/-- The end of a command tells the truth.  Its exit code is zero exactly if it has printed a text
that tells nothing bad.  If it has printed one that does, its failure is of one kind with a code of
its own; and nothing else is a failed verification.  It prints once at most, and it ends as it
should. -/
structure ExitTells (told : String → List Bool) (badEnd : String → Failure) (badCode : ℕ)
    (Ends : Ended → Prop) (t : Trace (Except Failure Unit)) : Prop where
  zero_iff : t.value.map exitCodeOf = some 0 ↔ ∃ text, t.prints = [text] ∧ false ∉ told text
  of_bad : ∀ text, t.prints = [text] → false ∈ told text →
    t.value.map exitCodeOf = some badCode ∧ ∃ message, t.value = some (.error (badEnd message))
  of_verification : ∀ summary, t.value = some (.error (.verification summary)) →
    ∃ text, t.prints = [text] ∧ false ∈ told text
  length_prints : t.prints.length ≤ 1
  ends : ∃ ended, Ends ended ∧ ended.LeftBy told t

theorem run_attempt {ρ : Type} (a : Attempt ρ) (m : Moment) :
    (Run.attempt a).run m =
      ⟨(a.run m).value.map (Except.mapError Failure.ofFault), (a.run m).elapsed,
        (a.run m).entries⟩ :=
  Work.bind_pure_apply a.run (Except.mapError Failure.ofFault) m

def endOf : Option Failure → Except Failure Unit
  | some f => .error f
  | none => .ok ()

theorem run_conclude (s : Surroundings) (format : Format) (report : Report)
    (failure : Option Failure) (m : Moment) :
    (s.conclude format report failure).run m =
      ⟨some (endOf failure), 0, [.print (s.rendered format report)]⟩ := by
  cases failure <;> rfl

section Examination

variable {ρ : Type} (s : Surroundings) (format : Format) (examination : Attempt ρ)
  (report : ρ → Report) (failure? : ρ → Option Failure) (m : Moment)

def examineAndConclude : Run Unit := do
  let r ← Run.attempt examination
  s.conclude format (report r) (failure? r)

def endAfter (failure? : ρ → Option Failure) : Except Fault ρ → Except Failure Unit
  | .ok r => endOf (failure? r)
  | .error fault => .error (.ofFault fault)

theorem value_examineAndConclude :
    ((examineAndConclude s format examination report failure?).run m).value =
      (examination.run m).value.map (endAfter failure?) := by
  have hattempt := congrArg Trace.value (run_attempt examination m)
  cases hvalue : (examination.run m).value with
  | none =>
      rw [hvalue] at hattempt
      rw [examineAndConclude, Attempt.run_bind_of_none _ _ _ hattempt]
      rfl
  | some result =>
      rw [hvalue] at hattempt
      cases result with
      | error fault =>
          rw [examineAndConclude, Attempt.run_bind_of_error _ _ _ hattempt]
          rfl
      | ok r =>
          rw [examineAndConclude, Attempt.run_bind_of_ok _ _ _ hattempt, run_conclude]
          rfl

theorem prints_examineAndConclude (hsilent : examination.run.Records Entry.IsSilent) :
    ((examineAndConclude s format examination report failure?).run m).prints =
      match (examination.run m).value with
      | some (.ok r) => [s.rendered format (report r)]
      | _ => [] := by
  have hattempt := congrArg Trace.value (run_attempt examination m)
  have hprints : ((Run.attempt examination).run m).prints = [] := by
    rw [run_attempt]
    exact hsilent.prints_eq_nil m
  cases hvalue : (examination.run m).value with
  | none =>
      rw [hvalue] at hattempt
      rw [examineAndConclude, Attempt.run_bind_of_none _ _ _ hattempt]
      exact hprints
  | some result =>
      rw [hvalue] at hattempt
      cases result with
      | error fault =>
          rw [examineAndConclude, Attempt.run_bind_of_error _ _ _ hattempt]
          exact hprints
      | ok r =>
          rw [examineAndConclude, Attempt.run_bind_of_ok _ _ _ hattempt, run_conclude,
            Trace.prints_followedBy, hprints]
          rfl

/-- A command fails with one kind of failure exactly if something is not as it should be. -/
structure FailsWith (failure? : ρ → Option Failure) (flags : ρ → List Bool)
    (badEnd : String → Failure) : Prop where
  of_good : ∀ r, false ∉ flags r → failure? r = none
  of_bad : ∀ r, false ∈ flags r → ∃ message, failure? r = some (badEnd message)

def endedOf (flags : ρ → List Bool) : Option (Except Fault ρ) → Ended
  | none => .unending
  | some (.error fault) => .refused fault.kind.exitCode
  | some (.ok r) => .reported (flags r)

variable {told : String → List Bool} {badEnd : String → Failure} {badCode : ℕ}
  {Ends : Ended → Prop} {t : Trace (Except Failure Unit)}

theorem exitTells_of_never (hends : Ends .unending) (hvalue : t.value = none)
    (hprints : t.prints = []) : ExitTells told badEnd badCode Ends t := by
  have hleft : Ended.unending.LeftBy told t := ⟨hprints, hvalue⟩
  constructor
  case ends => exact ⟨_, hends, hleft⟩
  all_goals simp [hvalue, hprints]

theorem exitTells_of_failure {f : Failure} (hf : ∀ summary, f ≠ .verification summary)
    (hends : Ends (.refused f.exitCode)) (hvalue : t.value = some (.error f))
    (hprints : t.prints = []) : ExitTells told badEnd badCode Ends t := by
  have hcode : t.value.map exitCodeOf = some f.exitCode := by
    rw [hvalue]
    rfl
  have hleft : (Ended.refused f.exitCode).LeftBy told t := ⟨hprints, hcode⟩
  constructor
  case zero_iff => simp [hcode, hprints, f.exitCode_pos.ne']
  case of_verification => simp [hvalue, hf]
  case ends => exact ⟨_, hends, hleft⟩
  all_goals simp [hprints]

theorem exitTells_of_report {r : ρ} {failure? : ρ → Option Failure} {flags : ρ → List Bool}
    {text : String} (hends : Ends (.reported (flags r)))
    (hfails : FailsWith failure? flags badEnd)
    (hcode : ∀ message, (badEnd message).exitCode = badCode) (htold : told text = flags r)
    (hvalue : t.value = some (endOf (failure? r))) (hprints : t.prints = [text]) :
    ExitTells told badEnd badCode Ends t := by
  have hleft : (Ended.reported (flags r)).LeftBy told t := ⟨text, hprints, htold⟩
  by_cases hgood : false ∉ flags r
  · rw [hfails.of_good r hgood] at hvalue
    constructor
    case ends => exact ⟨_, hends, hleft⟩
    all_goals simp [hvalue, endOf, exitCodeOf, hprints, htold, hgood]
  · obtain ⟨message, hmessage⟩ := hfails.of_bad r (not_not.mp hgood)
    rw [hmessage] at hvalue
    have hpos := (badEnd message).exitCode_pos.ne'
    rw [hcode message] at hpos
    constructor
    case ends => exact ⟨_, hends, hleft⟩
    all_goals
      simp [hvalue, endOf, exitCodeOf, hprints, htold, not_not.mp hgood, hcode, hpos]

theorem exitTells_examineAndConclude {flags : ρ → List Bool}
    (hsilent : examination.run.Records Entry.IsSilent)
    (hfails : FailsWith failure? flags badEnd)
    (hcode : ∀ message, (badEnd message).exitCode = badCode)
    (htold : ∀ r, (examination.run m).value = some (.ok r) →
      told (s.rendered format (report r)) = flags r)
    (hends : Ends (endedOf flags (examination.run m).value)) :
    ExitTells told badEnd badCode Ends
      ((examineAndConclude s format examination report failure?).run m) := by
  have hvalue := value_examineAndConclude s format examination report failure? m
  have hprints := prints_examineAndConclude s format examination report failure? m hsilent
  cases he : (examination.run m).value with
  | none =>
      rw [he] at hvalue hprints hends
      exact exitTells_of_never hends hvalue hprints
  | some result =>
      rw [he] at hvalue hprints hends
      cases result with
      | error fault =>
          rw [endedOf, ← exitCodeOf_ofFault] at hends
          exact exitTells_of_failure (Failure.ofFault_ne_verification fault) hends hvalue hprints
      | ok r => exact exitTells_of_report hends hfails hcode (htold r he) hvalue hprints

end Examination

end CommandLine

end NotebookCheck

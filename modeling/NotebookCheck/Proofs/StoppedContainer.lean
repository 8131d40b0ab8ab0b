import Mathlib.Data.List.Basic
import NotebookCheck.Docker.Inspection
import NotebookCheck.Text.Unicode

namespace NotebookCheck.Docker

/-- An exit code has a place among those that are told. -/
def FitsExitCode (code : Int64) : Prop :=
  Int32.minValue.toInt ≤ code.toInt ∧ code.toInt ≤ Int32.maxValue.toInt

instance (code : Int64) : Decidable (FitsExitCode code) :=
  inferInstanceAs (Decidable (_ ∧ _))

theorem narrowExitCode_some (code : Int64) :
    narrowExitCode (some code) = if FitsExitCode code then Int32.ofInt code.toInt else 0 := by
  by_cases h : FitsExitCode code
  · rw [if_pos h, narrowExitCode, if_pos]
    simpa [FitsExitCode] using h
  · rw [if_neg h, narrowExitCode, if_neg]
    simpa [FitsExitCode] using h

theorem toInt_narrowExitCode (code : Int64) :
    (narrowExitCode (some code)).toInt = if FitsExitCode code then code.toInt else 0 := by
  rw [narrowExitCode_some]
  split
  case isTrue h => exact Int32.toInt_ofInt_of_le h.1 (Int.lt_of_le_sub_one h.2)
  case isFalse => exact Int32.toInt_zero

theorem narrowExitCode_eq_zero_iff (code : Int64) :
    narrowExitCode (some code) = 0 ↔ code = 0 ∨ ¬ FitsExitCode code := by
  rw [← Int32.toInt_inj, ← Int64.toInt_inj, toInt_narrowExitCode, Int32.toInt_zero,
    Int64.toInt_zero]
  by_cases h : FitsExitCode code <;> simp [h]

namespace Inspection

variable {i : Inspection}

def IsStopped (i : Inspection) : Prop := i.status = some .exited ∨ i.status = some .dead

/-- The exit code of a container that has stopped; one that is not given counts as zero. -/
def endCode (i : Inspection) : Int64 := i.exitCode.getD 0

/-- A snapshot tells truly how a container ended: well exactly with the exit code zero, badly with
every other one, and no other one is told as zero. -/
structure IsTrulyTold (i : Inspection) (s : Snapshot) : Prop where
  succeeded_iff : s.phase = .succeeded ↔ i.endCode = 0
  failed_iff : s.phase = .failed ↔ i.endCode ≠ 0
  terminated : ∃ code reason, s.statuses.map (·.state) = [.terminated code reason] ∧
    (code = 0 → i.endCode = 0)

theorem narrowExitCode_exitCode (i : Inspection) :
    narrowExitCode i.exitCode = narrowExitCode (some i.endCode) := by
  unfold endCode
  cases i.exitCode with
  | none => decide
  | some _ => rfl

theorem phaseAndState_of_isStopped (h : i.IsStopped) :
    i.phaseAndState =
      (if narrowExitCode (some i.endCode) = 0 then .succeeded else .failed,
        .terminated (narrowExitCode (some i.endCode)) (nonempty? i.error)) := by
  rw [phaseAndState, narrowExitCode_exitCode]
  rcases h with h | h
  · rw [h]
    rfl
  · rw [h]
    rfl

theorem phase_of_isStopped (h : i.IsStopped) (name : String) :
    (i.snapshot name).phase =
      if i.endCode = 0 ∨ ¬ FitsExitCode i.endCode then .succeeded else .failed := by
  rw [snapshot, phaseAndState_of_isStopped h]
  simp only [narrowExitCode_eq_zero_iff]

theorem statuses_of_isStopped (h : i.IsStopped) (name : String) :
    (i.snapshot name).statuses =
      [⟨name, false, .terminated (narrowExitCode (some i.endCode)) (nonempty? i.error)⟩] := by
  have hready : i.isReady = false := by
    rw [isReady, phaseAndState_of_isStopped h]
    split <;> rfl
  rw [snapshot, hready, phaseAndState_of_isStopped h]

theorem IsTrulyTold.fits {name : String} (h : i.IsStopped)
    (htold : i.IsTrulyTold (i.snapshot name)) : FitsExitCode i.endCode := by
  by_contra hfits
  have hphase := phase_of_isStopped h name
  rw [if_pos (.inr hfits)] at hphase
  -- A code that does not fit is told as success, so it would have to be zero, which fits.
  rw [htold.succeeded_iff.mp hphase] at hfits
  exact hfits (by decide)

theorem isTrulyTold_of_fits {name : String} (h : i.IsStopped) (hfits : FitsExitCode i.endCode) :
    i.IsTrulyTold (i.snapshot name) := by
  have hphase := phase_of_isStopped h name
  have hstatuses := statuses_of_isStopped h name
  by_cases hzero : i.endCode = 0
  · rw [if_pos (.inl hzero)] at hphase
    constructor
    case succeeded_iff => simp [hphase, hzero]
    case failed_iff => simp [hphase, hzero]
    case terminated => exact ⟨_, _, congrArg (List.map _) hstatuses, fun _ => hzero⟩
  · have hnonzero : ¬ (i.endCode = 0 ∨ ¬ FitsExitCode i.endCode) := by simp [hzero, hfits]
    rw [if_neg hnonzero] at hphase
    constructor
    case succeeded_iff => simp [hphase, hzero]
    case failed_iff => simp [hphase, hzero]
    case terminated =>
        refine ⟨_, _, congrArg (List.map _) hstatuses, fun hcode => ?_⟩
        exact absurd ((narrowExitCode_eq_zero_iff _).mp hcode) hnonzero

/-- What is told of a container that has stopped.  It is told to have succeeded if its exit code is
zero or does not fit, and else to have failed; its code is told if it fits, and else zero.  So its
end is told truly exactly if its exit code fits. -/
theorem snapshot_of_isStopped (i : Inspection) (name : String) (h : i.IsStopped) :
    (i.snapshot name).phase =
        (if i.endCode = 0 ∨ ¬ FitsExitCode i.endCode then .succeeded else .failed) ∧
      (∃ code, (i.snapshot name).statuses = [⟨name, false, .terminated code (nonempty? i.error)⟩] ∧
        code.toInt = if FitsExitCode i.endCode then i.endCode.toInt else 0) ∧
      (i.IsTrulyTold (i.snapshot name) ↔ FitsExitCode i.endCode) :=
  ⟨phase_of_isStopped h name, ⟨_, statuses_of_isStopped h name, toInt_narrowExitCode _⟩,
    fun htold => htold.fits h, isTrulyTold_of_fits h⟩

theorem snapshot_of_killed :
    let i : Inspection := { status := some .exited, exitCode := some 137 }
    i.IsStopped ∧ (i.snapshot "nb").phase = .failed ∧ i.IsTrulyTold (i.snapshot "nb") := by
  intro i
  have h : i.IsStopped := .inl rfl
  obtain ⟨hphase, -, htold⟩ := snapshot_of_isStopped i "nb" h
  exact ⟨h, hphase, htold.mpr (by decide)⟩

/-- What a daemon says of a container that an unhandled exception has ended, with a code that has 32
bits without a sign. -/
def crashedText : String :=
  "\x7b\"State\":\x7b\"Status\":\"exited\",\"ExitCode\":3221225477\x7d\x7d"

/-- A container that crashed is told to have succeeded. -/
theorem snapshot_of_crashed :
    ∃ i, read (Text.Utf8.encode crashedText) = .ok i ∧ i.IsStopped ∧ i.endCode = 3221225477 ∧
      (i.snapshot "nb").phase = .succeeded ∧
      (i.snapshot "nb").statuses = [⟨"nb", false, .terminated 0 none⟩] ∧
      ¬ i.IsTrulyTold (i.snapshot "nb") := by
  have hread : read (Text.Utf8.encode crashedText) =
      .ok { status := some .exited, exitCode := some 3221225477 } := by
    decide +kernel
  refine ⟨_, hread, .inl rfl, rfl, rfl, rfl, fun htold => ?_⟩
  exact absurd (htold.succeeded_iff.mp rfl) (by decide)

end Inspection

end NotebookCheck.Docker

import NotebookCheck.Settings

namespace NotebookCheck.Settings

/-- The name of the program is one, each duration is positive and not too long, and there are not
too many lines of a log. -/
structure InBounds (s : Settings) : Prop where
  runtime : isExecutableName s.runtime = true
  packageTimeout : 0 < s.packageTimeout ∧ s.packageTimeout ≤ maxPackageTimeout
  readinessTimeout : 0 < s.readinessTimeout ∧ s.readinessTimeout ≤ maxReadinessTimeout
  pollInterval : 0 < s.pollInterval ∧ s.pollInterval ≤ maxPollInterval
  connectionPollInterval :
    0 < s.connectionPollInterval ∧ s.connectionPollInterval ≤ maxPollInterval
  snippetRetryInterval : 0 < s.snippetRetryInterval ∧ s.snippetRetryInterval ≤ maxPollInterval
  connectionTimeout : 0 < s.connectionTimeout ∧ s.connectionTimeout ≤ maxReadinessTimeout
  overallTimeout : 0 < s.overallTimeout ∧ s.overallTimeout ≤ maxOverallTimeout
  logTailLines : s.logTailLines ≤ maxLogLines
  readinessLogLines : s.readinessLogLines ≤ maxLogLines

theorem millis_pos {seconds : Nat} (h : 0 < seconds) : 0 < millis seconds :=
  Nat.mul_pos h (by decide)

theorem checkSeconds_eq_ok_iff (field : String) (greatest value : Nat) :
    checkSeconds field greatest value = .ok () ↔ 0 < value ∧ value ≤ greatest := by
  unfold checkSeconds
  by_cases hbad : value = 0 ∨ greatest < value
  · have hnot : ¬ (0 < value ∧ value ≤ greatest) := by omega
    simp [hbad, hnot]
  · have hgood : 0 < value ∧ value ≤ greatest := by omega
    simp [hbad, hgood]

theorem bind_eq_ok_iff {x y : Except Fault Unit} :
    (x >>= fun _ => y) = .ok () ↔ x = .ok () ∧ y = .ok () := by
  cases x <;> simp [bind, Except.bind]

theorem ite_error_eq_ok_iff {c : Prop} [Decidable c] (fault : Fault) :
    (if c then .error fault else pure () : Except Fault Unit) = .ok () ↔ ¬ c := by
  split
  case isTrue h => simp [h]
  case isFalse h => simp [h, pure, Except.pure]

theorem check_eq_ok_iff (s : Settings) : s.check = .ok () ↔ s.InBounds := by
  unfold check
  dsimp only
  by_cases hruntime : isExecutableName s.runtime = true
  · rw [if_pos hruntime]
    simp only [bind_eq_ok_iff, checkSeconds_eq_ok_iff, ite_error_eq_ok_iff, Bool.or_eq_true,
      decide_eq_true_eq, not_or, Nat.not_lt]
    constructor
    · rintro ⟨h₁, h₂, h₃, h₄, h₅, h₆, h₇, h₈, h₉⟩
      exact ⟨hruntime, h₁, h₂, h₃, h₄, h₅, h₆, h₇, h₈, h₉⟩
    · rintro ⟨-, h₁, h₂, h₃, h₄, h₅, h₆, h₇, h₈, h₉⟩
      exact ⟨h₁, h₂, h₃, h₄, h₅, h₆, h₇, h₈, h₉⟩
  · rw [if_neg hruntime]
    constructor
    · intro h
      cases h
    · intro h
      exact absurd h.runtime hruntime

theorem InBounds.with_packageTimeout {s : Settings} {seconds : Nat} (h : s.InBounds)
    (hseconds : 0 < seconds ∧ seconds ≤ maxPackageTimeout) :
    InBounds { s with packageTimeout := seconds } :=
  { h with packageTimeout := hseconds }

end NotebookCheck.Settings

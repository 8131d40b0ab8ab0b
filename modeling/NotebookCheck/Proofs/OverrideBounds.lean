import NotebookCheck.Proofs.CommandEnd
import NotebookCheck.Proofs.PackageRequest
import NotebookCheck.Proofs.SettingsBounds

namespace NotebookCheck

/-- A trace in which a target is to be reached. -/
def Trace.Reaches {α : Type} (t : Trace α) : Prop := ∃ backend, .connect backend ∈ t.entries

section

variable {α β ε : Type}

theorem Trace.reaches_followedBy_iff {t : Trace α} {u : Trace β} :
    (t.followedBy u).Reaches ↔ t.Reaches ∨ u.Reaches := by
  simp only [Reaches, entries_followedBy, List.mem_append, exists_or]

theorem Attempt.reaches_bind_of_reaches {w : ExceptT ε Work α} (f : α → ExceptT ε Work β)
    {m : Moment} (h : (w.run m).Reaches) : ((w >>= f).run m).Reaches := by
  cases hvalue : (w.run m).value with
  | none =>
      rw [run_bind_of_none _ _ _ hvalue]
      exact h
  | some ended =>
      cases ended with
      | error fault =>
          rw [run_bind_of_error _ _ _ hvalue]
          exact h
      | ok a =>
          rw [run_bind_of_ok _ _ _ hvalue]
          exact Trace.reaches_followedBy_iff.mpr (.inl h)

theorem Attempt.reaches_of_reaches_bind {w : ExceptT ε Work α} {f : α → ExceptT ε Work β}
    {m : Moment} (hf : ∀ a m, ¬ ((f a).run m).Reaches) (h : ((w >>= f).run m).Reaches) :
    (w.run m).Reaches := by
  cases hvalue : (w.run m).value with
  | none =>
      rw [run_bind_of_none _ _ _ hvalue] at h
      exact h
  | some ended =>
      cases ended with
      | error fault =>
          rw [run_bind_of_error _ _ _ hvalue] at h
          exact h
      | ok a =>
          rw [run_bind_of_ok _ _ _ hvalue] at h
          exact (Trace.reaches_followedBy_iff.mp h).resolve_right (hf a _)

theorem Attempt.reaches_ofExcept_bind_iff (r : Except Fault α) (f : α → Attempt β) (m : Moment) :
    ((ofExcept r >>= f).run m).Reaches ↔ ∃ a, r = .ok a ∧ ((f a).run m).Reaches := by
  cases r with
  | error fault => simp [run_ofExcept_bind_error, Trace.Reaches]
  | ok a => simp [run_ofExcept_bind_ok]

theorem Attempt.reaches_check_bind_iff (r : Except Fault Unit) (f : Unit → Attempt β)
    (m : Moment) :
    ((ofExcept r >>= f).run m).Reaches ↔ r = .ok () ∧ ((f ()).run m).Reaches := by
  rw [reaches_ofExcept_bind_iff]
  constructor
  · rintro ⟨_, hr, h⟩
    exact ⟨hr, h⟩
  · rintro ⟨hr, h⟩
    exact ⟨(), hr, h⟩

end

namespace CommandLine

variable (s : Surroundings) (format : Format) (config : Configuration) (m : Moment)

theorem reaches_reach_bind {α : Type} (place : Place) (f : Target → Attempt α) :
    ((s.reach config place >>= f).run m).Reaches :=
  Attempt.reaches_bind_of_reaches f
    (Attempt.reaches_bind_of_reaches _ ⟨_, List.mem_singleton_self _⟩)

theorem reaches_examineAndConclude_iff {ρ : Type} (examination : Attempt ρ) (report : ρ → Report)
    (failure? : ρ → Option Failure) :
    ((examineAndConclude s format examination report failure?).run m).Reaches ↔
      (examination.run m).Reaches := by
  have hattempt : ((Run.attempt examination).run m).Reaches ↔ (examination.run m).Reaches := by
    rw [run_attempt]
    exact Iff.rfl
  rw [examineAndConclude, ← hattempt]
  constructor
  · refine Attempt.reaches_of_reaches_bind fun r m => ?_
    rw [run_conclude]
    simp [Trace.Reaches]
  · exact Attempt.reaches_bind_of_reaches _

theorem reaches_wait_iff (o : WaitOptions) :
    ((wait s format config o).run m).Reaches ↔ (o.settings config).check = .ok () := by
  have hexamine := reaches_examineAndConclude_iff s format m (examineReadiness s config o)
    WaitReport.report (WaitReport.failure? (o.settings config).readinessTimeout)
  refine hexamine.trans ?_
  -- Once the settings have passed, the target is reached, whatever comes of it.
  rw [examineReadiness, Attempt.reaches_check_bind_iff]
  exact and_iff_left (reaches_reach_bind s config m _ _)

theorem reaches_check_iff (o : CheckOptions) :
    ((check s format config o).run m).Reaches ↔
      (∃ checks, SnippetSuite.ofName o.suite = .ok checks) ∧
        (o.settings config).check = .ok () := by
  have hexamine := reaches_examineAndConclude_iff s format m (examineSnippets s config o)
    CheckReport.report CheckReport.failure?
  refine hexamine.trans ?_
  rw [examineSnippets, Attempt.reaches_ofExcept_bind_iff, ← exists_and_right]
  refine exists_congr fun checks => and_congr_right fun _ => ?_
  rw [Attempt.reaches_check_bind_iff]
  refine and_iff_left ?_
  rw [Attempt.run_lift_bind, Work.bind_of_value _ _ m rfl]
  exact Trace.reaches_followedBy_iff.mpr (.inr (reaches_reach_bind s config _ _ _))

/-- The packages of a verification are at least one, and all of them have a package's name. -/
def VerifyOptions.NamesPackages (o : VerifyOptions) : Prop :=
  o.packages ≠ [] ∧ ∀ package ∈ o.packages, isPackageName package = true

def VerifyOptions.timedSettings (o : VerifyOptions) (config : Configuration) : Settings :=
  { o.settings config with
    packageTimeout := o.timeout.getD (o.settings config).packageTimeout }

theorem reaches_verify_iff (o : VerifyOptions) :
    ((verify s format config o).run m).Reaches ↔
      (o.settings config).InBounds ∧ o.NamesPackages ∧ o.timeout ≠ some 0 := by
  have hexamine := reaches_examineAndConclude_iff s format m (examinePackages s config o)
    VerifyReport.report VerifyReport.failure?
  refine hexamine.trans ?_
  rw [examinePackages, Attempt.reaches_check_bind_iff, Settings.check_eq_ok_iff]
  refine and_congr_right fun hbounds => ?_
  rw [Attempt.reaches_check_bind_iff, Packages.checkRequest_eq_ok_iff]
  have htime : 0 < Settings.millis (o.timeout.getD (o.settings config).packageTimeout) ↔
      o.timeout ≠ some 0 := by
    have hpos := hbounds.packageTimeout.1
    cases o.timeout with
    | none => simp [Settings.millis, hpos]
    | some seconds =>
        simp only [Settings.millis, Option.getD_some, ne_eq, Option.some_inj]
        omega
  rw [and_iff_left (reaches_reach_bind s config _ _ _), htime, VerifyOptions.NamesPackages]
  tauto

section

variable {o : VerifyOptions} {config : Configuration}

theorem timedSettings_inBounds (h : (o.settings config).InBounds)
    (htime : 0 < o.timeout.getD config.packageTimeout ∧
      o.timeout.getD config.packageTimeout ≤ Settings.maxPackageTimeout) :
    (o.timedSettings config).InBounds :=
  h.with_packageTimeout htime

theorem settings_inBounds_of_timedSettings (h : (o.timedSettings config).InBounds)
    (htime : 0 < config.packageTimeout ∧ config.packageTimeout ≤ Settings.maxPackageTimeout) :
    (o.settings config).InBounds :=
  h.with_packageTimeout htime

end

theorem reaches_verify_out_of_bounds_iff (o : VerifyOptions) :
    o.NamesPackages ∧ ¬ (o.timedSettings config).InBounds ∧
        ((verify s format config o).run m).Reaches ↔
      o.NamesPackages ∧ (o.settings config).InBounds ∧
        ∃ seconds, o.timeout = some seconds ∧ Settings.maxPackageTimeout < seconds := by
  rw [reaches_verify_iff]
  refine and_congr_right fun hnames => ?_
  constructor
  · rintro ⟨htimed, hbounds, -, hzero⟩
    refine ⟨hbounds, ?_⟩
    cases htimeout : o.timeout with
    | none =>
        refine absurd (timedSettings_inBounds hbounds ?_) htimed
        rw [htimeout]
        exact hbounds.packageTimeout
    | some seconds =>
        refine ⟨seconds, rfl, Nat.lt_of_not_le fun hle => htimed ?_⟩
        have hpos : 0 < seconds := by
          refine Nat.pos_of_ne_zero fun hseconds => hzero ?_
          rw [htimeout, hseconds]
        refine timedSettings_inBounds hbounds ?_
        rw [htimeout]
        exact ⟨hpos, hle⟩
  · rintro ⟨hbounds, seconds, htimeout, hlong⟩
    have htime : (o.timedSettings config).packageTimeout = seconds := by
      rw [VerifyOptions.timedSettings, htimeout]
      rfl
    refine ⟨fun htimed => ?_, hbounds, hnames, fun hzero => ?_⟩
    · have hle := htimed.packageTimeout.2
      omega
    · rw [htimeout, Option.some_inj] at hzero
      omega

theorem refuses_verify_in_bounds_iff (o : VerifyOptions) :
    o.NamesPackages ∧ (o.timedSettings config).InBounds ∧
        ¬ ((verify s format config o).run m).Reaches ↔
      o.NamesPackages ∧ (o.timedSettings config).InBounds ∧
        ¬ (0 < config.packageTimeout ∧ config.packageTimeout ≤ Settings.maxPackageTimeout) := by
  rw [reaches_verify_iff]
  refine and_congr_right fun hnames => and_congr_right fun htimed => not_congr ?_
  constructor
  · exact fun h => h.1.packageTimeout
  · intro h
    refine ⟨settings_inBounds_of_timedSettings htimed h, hnames, fun hzero => ?_⟩
    have hpos := htimed.packageTimeout.1
    rw [VerifyOptions.timedSettings, hzero] at hpos
    exact absurd hpos (Nat.lt_irrefl 0)

/-- A wait and a check connect to their target exactly if the settings with what the command line
gives are within their bounds.  A verification looks at the configured time for each package instead
of the given one, of which it asks no more than not to be zero.  So it connects with settings out of
bounds exactly if the given time is too long, and refuses settings within bounds exactly if the
configured time is out of bounds. -/
theorem commands_judge_overrides :
    (∀ o : WaitOptions,
      ((wait s format config o).run m).Reaches ↔ (o.settings config).check = .ok ()) ∧
    (∀ o : CheckOptions,
      ((check s format config o).run m).Reaches ↔
        (∃ checks, SnippetSuite.ofName o.suite = .ok checks) ∧
          (o.settings config).check = .ok ()) ∧
    ∀ o : VerifyOptions,
      let t := (verify s format config o).run m
      (t.Reaches ↔
        (o.settings config).check = .ok () ∧ o.NamesPackages ∧ o.timeout ≠ some 0) ∧
      (o.NamesPackages ∧ (o.timedSettings config).check ≠ .ok () ∧ t.Reaches ↔
        o.NamesPackages ∧ (o.settings config).check = .ok () ∧
          ∃ seconds, o.timeout = some seconds ∧ Settings.maxPackageTimeout < seconds) ∧
      (o.NamesPackages ∧ (o.timedSettings config).check = .ok () ∧ ¬ t.Reaches ↔
        o.NamesPackages ∧ (o.timedSettings config).check = .ok () ∧
          ¬ (0 < config.packageTimeout ∧
            config.packageTimeout ≤ Settings.maxPackageTimeout)) := by
  refine ⟨reaches_wait_iff s format config m, reaches_check_iff s format config m, ?_⟩
  intro o t
  simp only [ne_eq, Settings.check_eq_ok_iff]
  exact ⟨reaches_verify_iff s format config m o,
    reaches_verify_out_of_bounds_iff s format config m o,
    refuses_verify_in_bounds_iff s format config m o⟩

/-- A verification that is given more time for each package than its bound connects all the same,
and one that is given a time within bounds does not if the configured time is too long. -/
theorem verify_judges_configured_timeout :
    let s : Surroundings :=
      { file := fun _ => .missing, env := fun _ => none, styled := false
        connect := fun _ => Attempt.fail (.connection "refused") }
    let options (timeout : ℕ) : VerifyOptions :=
      { place := { namespaceName := none, pod := "nb", docker := true }, container := none
        packages := ["os"], timeout := some timeout, noDiagnostics := false, runtime := none }
    (((verify s .text {} (options 3601)).run ⟨0, []⟩).Reaches ∧
        ((options 3601).timedSettings {}).check =
          .error (.config "package_timeout_secs" "must be 1-3600")) ∧
      ¬ ((verify s .text { packageTimeout := 3601 } (options 60)).run ⟨0, []⟩).Reaches ∧
        ((options 60).timedSettings { packageTimeout := 3601 }).check = .ok () := by
  intro s options
  have hlong : ((options 3601).settings {}).check = .ok () := by decide +kernel
  have hconfigured : ((options 60).settings { packageTimeout := 3601 }).check ≠ .ok () := by
    decide +kernel
  have hnames : (options 3601).NamesPackages := ⟨by decide, by decide +kernel⟩
  refine ⟨⟨(reaches_verify_iff ..).mpr ⟨(Settings.check_eq_ok_iff _).mp hlong, hnames, by decide⟩,
    by decide +kernel⟩, fun h => hconfigured ?_, by decide +kernel⟩
  exact (Settings.check_eq_ok_iff _).mpr ((reaches_verify_iff ..).mp h).1

end CommandLine

end NotebookCheck

import Mathlib.Data.List.Basic
import NotebookCheck.Proofs.SettingsBounds

/-!
Which field the check of settings blames.  The fields are looked at in a fixed order, and the first
one out of bounds is named, except for the log lines of a failed wait, which are judged together with
the log lines of a failed package and under their name.
-/

namespace NotebookCheck.Settings

open Text

inductive Field where
  | runtime
  | packageTimeout
  | collectDiagnostics
  | logTailLines
  | readinessTimeout
  | pollInterval
  | connectionTimeout
  | overallTimeout
  | connectionPollInterval
  | snippetRetryInterval
  | readinessLogLines
deriving Repr, DecidableEq

namespace Field

def key : Field → String
  | runtime => "runtime"
  | packageTimeout => "package_timeout_secs"
  | collectDiagnostics => "collect_diagnostics"
  | logTailLines => "log_tail_lines"
  | readinessTimeout => "readiness_timeout_secs"
  | pollInterval => "poll_interval_secs"
  | connectionTimeout => "connection_timeout_secs"
  | overallTimeout => "overall_timeout_secs"
  | connectionPollInterval => "connection_poll_interval_secs"
  | snippetRetryInterval => "snippet_retry_interval_secs"
  | readinessLogLines => "readiness_log_lines"

/-- The field is within its bounds.  A runtime is a name without blank characters, and a truth value
has no bounds. -/
def IsWithin (s : Settings) : Field → Prop
  | runtime => s.runtime ≠ "" ∧ ∀ c ∈ s.runtime.toList, isBlank c = false
  | packageTimeout => 1 ≤ s.packageTimeout ∧ s.packageTimeout ≤ 3600
  | collectDiagnostics => True
  | logTailLines => s.logTailLines ≤ 10000
  | readinessTimeout => 1 ≤ s.readinessTimeout ∧ s.readinessTimeout ≤ 7200
  | pollInterval => 1 ≤ s.pollInterval ∧ s.pollInterval ≤ 300
  | connectionTimeout => 1 ≤ s.connectionTimeout ∧ s.connectionTimeout ≤ 7200
  | overallTimeout => 1 ≤ s.overallTimeout ∧ s.overallTimeout ≤ 86400
  | connectionPollInterval => 1 ≤ s.connectionPollInterval ∧ s.connectionPollInterval ≤ 300
  | snippetRetryInterval => 1 ≤ s.snippetRetryInterval ∧ s.snippetRetryInterval ≤ 300
  | readinessLogLines => s.readinessLogLines ≤ 10000

def blamed : Field → Field
  | readinessLogLines => logTailLines
  | f => f

def order : List Field :=
  [runtime, packageTimeout, readinessTimeout, pollInterval, connectionPollInterval,
    snippetRetryInterval, connectionTimeout, overallTimeout, logTailLines, readinessLogLines]

theorem mem_order_of_not_isWithin {s : Settings} {f : Field} (h : ¬ f.IsWithin s) : f ∈ order := by
  cases f with
  | collectDiagnostics => exact absurd trivial h
  | _ => decide

theorem mem_before_of_order_eq {before after : List Field} {g : Field}
    (horder : order = before ++ readinessLogLines :: after) (hg : g ≠ readinessLogLines)
    (hmem : g ∈ order) : g ∈ before := by
  have hnodup : order.Nodup := by decide
  have hlast : order.getLast? = some readinessLogLines := rfl
  rw [horder] at hnodup hlast hmem
  have hafter : after = [] := by
    rcases List.eq_nil_or_concat after with hnil | ⟨init, last, rfl⟩
    · exact hnil
    · rw [List.concat_eq_append, ← List.cons_append, ← List.append_assoc, List.getLast?_concat,
        Option.some_inj] at hlast
      have hcons := (List.nodup_append.mp hnodup).2.1
      exact absurd (by simp [hlast]) (List.nodup_cons.mp hcons).1
  rw [hafter] at hmem
  exact (List.mem_append.mp hmem).resolve_right fun h => hg (List.mem_singleton.mp h)

theorem blamed_of_ne {f : Field} (h : f ≠ readinessLogLines) : f.blamed = f := by
  cases f with
  | readinessLogLines => exact absurd rfl h
  | _ => rfl

theorem isWithin_runtime_iff (s : Settings) :
    runtime.IsWithin s ↔ isExecutableName s.runtime = true := by
  simp [IsWithin, isExecutableName, hasBlank]

end Field

section

variable {s : Settings}

/-- What a look at some fields in their order comes to: nothing if all of them are within bounds, and
otherwise a fault that is laid to the first one that is not. -/
inductive Judges (s : Settings) (fields : List Field) : Except Fault Unit → Prop
  | passed : (∀ f ∈ fields, f.IsWithin s) → Judges s fields (.ok ())
  | refused (before : List Field) {after : List Field} {f : Field} {reason : String} :
      fields = before ++ f :: after → (∀ g ∈ before, g.IsWithin s) → ¬ f.IsWithin s →
      Judges s fields (.error (.config f.blamed.key reason))

theorem Judges.bind {first second : List Field} {x y : Except Fault Unit}
    (hx : Judges s first x) (hy : Judges s second y) :
    Judges s (first ++ second) (x >>= fun _ => y) := by
  cases hx with
  | refused before hfirst hbefore hf =>
      rw [hfirst, List.append_assoc]
      exact .refused before rfl hbefore hf
  | passed hfirst =>
      cases hy with
      | passed hsecond =>
          refine .passed fun f hf => ?_
          exact (List.mem_append.mp hf).elim (hfirst f) (hsecond f)
      | refused before hsecond hbefore hf =>
          rw [hsecond, ← List.append_assoc]
          refine .refused (first ++ before) rfl (fun g hg => ?_) hf
          exact (List.mem_append.mp hg).elim (hfirst g) (hbefore g)

theorem judges_one {f : Field} {x : Except Fault Unit} (hgood : f.IsWithin s → x = .ok ())
    (hbad : ¬ f.IsWithin s → ∃ reason, x = .error (.config f.blamed.key reason)) :
    Judges s [f] x := by
  by_cases h : f.IsWithin s
  · rw [hgood h]
    exact .passed (List.forall_mem_singleton.mpr h)
  · obtain ⟨reason, hx⟩ := hbad h
    rw [hx]
    exact .refused [] rfl (List.forall_mem_nil _) h

theorem judges_checkSeconds {f : Field} (greatest value : ℕ)
    (h : f.IsWithin s ↔ 0 < value ∧ value ≤ greatest) :
    Judges s [f] (checkSeconds f.blamed.key greatest value) := by
  refine judges_one (fun hf => (checkSeconds_eq_ok_iff _ _ _).mpr (h.mp hf)) fun hf => ?_
  have hbad : value = 0 ∨ greatest < value := by
    have := mt h.mpr hf
    omega
  refine ⟨s!"must be 1-{greatest}", ?_⟩
  simp [checkSeconds, hbad]

theorem judges_logLines (s : Settings) :
    Judges s [.logTailLines, .readinessLogLines]
      (if maxLogLines < s.logTailLines || maxLogLines < s.readinessLogLines then
        .error (.config "log_tail_lines" s!"must be 0-{maxLogLines}")
      else pure ()) := by
  split
  case isTrue hbad =>
      simp only [Bool.or_eq_true, decide_eq_true_eq] at hbad
      by_cases htail : Field.logTailLines.IsWithin s
      · have hother : ¬ Field.readinessLogLines.IsWithin s :=
          Nat.not_le.mpr (hbad.resolve_left (Nat.not_lt.mpr htail))
        exact .refused [.logTailLines] rfl (List.forall_mem_singleton.mpr htail) hother
      · exact .refused [] rfl (List.forall_mem_nil _) htail
  case isFalse hgood =>
      simp only [Bool.or_eq_true, decide_eq_true_eq, not_or, Nat.not_lt] at hgood
      refine .passed ?_
      simpa [Field.IsWithin, maxLogLines] using hgood

end

theorem judges_check (s : Settings) : Judges s Field.order s.check := by
  unfold check
  dsimp only
  have hrest := (judges_checkSeconds (f := .packageTimeout) _ s.packageTimeout Iff.rfl).bind <|
    (judges_checkSeconds (f := .readinessTimeout) _ s.readinessTimeout Iff.rfl).bind <|
    (judges_checkSeconds (f := .pollInterval) _ s.pollInterval Iff.rfl).bind <|
    (judges_checkSeconds (f := .connectionPollInterval) _ s.connectionPollInterval Iff.rfl).bind <|
    (judges_checkSeconds (f := .snippetRetryInterval) _ s.snippetRetryInterval Iff.rfl).bind <|
    (judges_checkSeconds (f := .connectionTimeout) _ s.connectionTimeout Iff.rfl).bind <|
    (judges_checkSeconds (f := .overallTimeout) _ s.overallTimeout Iff.rfl).bind <|
    judges_logLines s
  by_cases hruntime : isExecutableName s.runtime = true
  · rw [if_pos hruntime]
    have hwithin := (Field.isWithin_runtime_iff s).mpr hruntime
    have hpassed : Judges s [.runtime] (.ok ()) := .passed (List.forall_mem_singleton.mpr hwithin)
    exact hpassed.bind hrest
  · rw [if_neg hruntime]
    have hout := mt (Field.isWithin_runtime_iff s).mp hruntime
    exact .refused [] rfl (List.forall_mem_nil _) hout

theorem kind_of_check_error {s : Settings} {fault : Fault} (h : s.check = .error fault) :
    fault.kind = .config := by
  have hjudges := judges_check s
  rw [h] at hjudges
  cases hjudges
  rfl

/-- The check refuses settings exactly if one of their fields is out of bounds.  It then names a
field, which is out of bounds itself exactly if one is besides the log lines of a failed wait; if
these alone are, the log lines of a failed package are named in their place. -/
theorem check_blames_field (s : Settings) :
    ((∃ fault, s.check = .error fault) ↔ ∃ f : Field, ¬ f.IsWithin s) ∧
    ∀ fault, s.check = .error fault → ∃ (f : Field) (reason : String),
      fault = .config f.key reason ∧
      (¬ f.IsWithin s ↔ ∃ g : Field, g ≠ .readinessLogLines ∧ ¬ g.IsWithin s) ∧
      (f.IsWithin s → f = .logTailLines ∧ ¬ Field.readinessLogLines.IsWithin s) := by
  have hjudges := judges_check s
  generalize s.check = result at hjudges
  cases hjudges with
  | passed hall =>
      refine ⟨iff_of_false nofun ?_, nofun⟩
      rintro ⟨f, hf⟩
      exact hf (hall f (Field.mem_order_of_not_isWithin hf))
  | @refused before after f reason horder hbefore hf =>
      refine ⟨iff_of_true ⟨_, rfl⟩ ⟨f, hf⟩, ?_⟩
      rintro _ ⟨⟩
      refine ⟨f.blamed, reason, rfl, ?_⟩
      by_cases hlast : f = .readinessLogLines
      · -- The field is the last one of the order, so every other one has been found within bounds.
        subst hlast
        have hothers : ∀ g : Field, g ≠ .readinessLogLines → g.IsWithin s := by
          intro g hg
          by_contra hout
          have hmem := Field.mem_order_of_not_isWithin hout
          exact hout (hbefore g (Field.mem_before_of_order_eq horder hg hmem))
        have htail : Field.logTailLines.IsWithin s := hothers .logTailLines nofun
        refine ⟨iff_of_false (fun h => h htail) ?_, fun _ => ⟨rfl, hf⟩⟩
        rintro ⟨g, hg, hout⟩
        exact hout (hothers g hg)
      · rw [Field.blamed_of_ne hlast]
        exact ⟨iff_of_true hf ⟨f, hlast, hf⟩, fun h => absurd h hf⟩

theorem check_blames_first_of_several :
    let s : Settings := { pollInterval := 301, logTailLines := 10001, readinessLogLines := 10001 }
    let fault : Fault := .config "poll_interval_secs" "must be 1-300"
    s.check = .error fault ∧
      ∃ (f : Field) (reason : String), fault = .config f.key reason ∧ ¬ f.IsWithin s := by
  intro s fault
  have hcheck : s.check = .error fault := by decide +kernel
  obtain ⟨f, reason, hfault, hout, -⟩ := (check_blames_field s).2 fault hcheck
  have hpoll : ¬ Field.pollInterval.IsWithin s := by
    rintro ⟨-, hle⟩
    exact absurd hle (by decide)
  exact ⟨hcheck, f, reason, hfault, hout.mpr ⟨.pollInterval, nofun, hpoll⟩⟩

/-- Too many log lines of a failed wait are laid to the log lines of a failed package, which are
within bounds. -/
theorem check_blames_other_log_lines :
    let s : Settings := { readinessLogLines := 10001 }
    s.check = .error (.config Field.logTailLines.key "must be 0-10000") ∧
      ∀ f : Field, f.key = Field.logTailLines.key → f.IsWithin s := by
  intro s
  refine ⟨by decide +kernel, fun f hf => ?_⟩
  cases f with
  | logTailLines => exact Nat.le_of_ble_eq_true rfl
  | _ => exact absurd hf (by decide)

end NotebookCheck.Settings

import Mathlib.Data.List.Basic
import NotebookCheck.Configuration.Loading

namespace NotebookCheck.Configuration

/-- The configuration that a text and the environment give if it is checked only once the
environment has taken effect. -/
def inOrder (env : Environment) (text : String) : Except Problem Configuration :=
  match parse text with
  | .ok c => (c.overridden env).checked
  | .error problem => .error (.config problem)

section

variable {c c' parsed : Configuration} {problem : ConfigProblem} {path text : String} {file : File}
  {env : Environment}

theorem checked_of_ok (h : c.check = .ok ()) : c.checked = .ok c := by
  rw [checked, h]

theorem checked_of_error (h : c.check = .error problem) :
    c.checked = .error (.config problem) := by
  rw [checked, h]

theorem checked_eq_ok_iff : c.checked = .ok c' ↔ c = c' ∧ c'.check = .ok () := by
  constructor
  · intro h
    cases hcheck : c.check with
    | error problem =>
        rw [checked_of_error hcheck] at h
        cases h
    | ok passed =>
        rw [checked_of_ok hcheck] at h
        cases h
        exact ⟨rfl, hcheck⟩
  · rintro ⟨rfl, hcheck⟩
    exact checked_of_ok hcheck

theorem inOrder_eq_ok_iff :
    inOrder env text = .ok c ↔
      ∃ parsed, parse text = .ok parsed ∧ parsed.overridden env = c ∧ c.check = .ok () := by
  cases hparse : parse text with
  | error problem => simp [inOrder, hparse]
  | ok parsed => simp [inOrder, hparse, checked_eq_ok_iff]

theorem ofFile_of_parse (htext : file.text = .ok text) (hparse : parse text = .ok parsed) :
    ofFile path file = parsed.checked := by
  simp only [ofFile, htext, hparse]

theorem ofFile_eq_ok_iff :
    ofFile path file = .ok c ↔
      ∃ text, file.text = .ok text ∧ parse text = .ok c ∧ c.check = .ok () := by
  constructor
  · intro h
    cases htext : file.text with
    | error fault => simp [ofFile, htext] at h
    | ok text =>
        cases hparse : parse text with
        | error problem => simp [ofFile, htext, hparse] at h
        | ok parsed =>
            rw [ofFile_of_parse htext hparse] at h
            obtain ⟨rfl, hcheck⟩ := checked_eq_ok_iff.mp h
            exact ⟨text, rfl, hparse, hcheck⟩
  · rintro ⟨text, htext, hparse, hcheck⟩
    rw [ofFile_of_parse htext hparse]
    exact checked_of_ok hcheck

end

theorem value_load (path : String) (file : File) (env : Environment) (m : Moment) :
    (load path file env m).value =
      some (ofFile path file >>= fun c => (c.overridden env).checked) := by
  rw [load]
  cases ofFile path file with
  | error problem => rfl
  | ok c => rfl

theorem value_load_eq_ok_iff (path : String) (file : File) (env : Environment) (m : Moment)
    (c : Configuration) :
    (load path file env m).value = some (.ok c) ↔
      ∃ text parsed, file.text = .ok text ∧ parse text = .ok parsed ∧ parsed.check = .ok () ∧
        parsed.overridden env = c ∧ c.check = .ok () := by
  rw [value_load]
  constructor
  · intro h
    cases hfile : ofFile path file with
    | error problem =>
        rw [hfile] at h
        cases h
    | ok parsed =>
        rw [hfile] at h
        obtain ⟨text, htext, hparse, hcheck⟩ := ofFile_eq_ok_iff.mp hfile
        exact ⟨text, parsed, htext, hparse, hcheck, checked_eq_ok_iff.mp (Option.some.inj h)⟩
  · rintro ⟨text, parsed, htext, hparse, hcheck, hover⟩
    rw [ofFile_eq_ok_iff.mpr ⟨text, htext, hparse, hcheck⟩]
    exact congrArg some (checked_eq_ok_iff.mpr hover)

/-- Loading always ends.  It gives a configuration exactly if the file passes the checks by itself
and then also under the environment.  So it goes by the order of file, environment and checks
exactly if the file passes by itself wherever it passes under the environment; a problem of the file
alone is the problem of loading, whatever the environment is. -/
theorem load_requires_valid_file (path : String) (file : File) (env : Environment) (m : Moment) :
    ∃ result, (load path file env m).value = some result ∧
      (∀ c, result = .ok c ↔
        ∃ text parsed, file.text = .ok text ∧ parse text = .ok parsed ∧ parsed.check = .ok () ∧
          parsed.overridden env = c ∧ c.check = .ok ()) ∧
      (∀ text, file.text = .ok text →
        ((∀ c, result = .ok c ↔ inOrder env text = .ok c) ↔
          ∀ parsed, parse text = .ok parsed → (parsed.overridden env).check = .ok () →
            parsed.check = .ok ())) ∧
      ∀ text parsed problem, file.text = .ok text → parse text = .ok parsed →
        parsed.check = .error problem → result = .error (.config problem) := by
  have hvalue := value_load path file env m
  have hok := value_load_eq_ok_iff path file env m
  simp only [hvalue, Option.some.injEq] at hok
  refine ⟨_, hvalue, hok, ?_, ?_⟩
  · intro text htext
    constructor
    · intro h parsed hparse hover
      -- What passes under the environment is then loaded, so the file passes by itself.
      have hresult := (h _).mpr (inOrder_eq_ok_iff.mpr ⟨parsed, hparse, rfl, hover⟩)
      obtain ⟨text', parsed', htext', hparse', hcheck, -⟩ := (hok _).mp hresult
      obtain rfl := Except.ok.inj (htext.symm.trans htext')
      obtain rfl := Except.ok.inj (hparse.symm.trans hparse')
      exact hcheck
    · intro h c
      rw [hok, inOrder_eq_ok_iff]
      constructor
      · rintro ⟨text', parsed, htext', hparse, -, hover⟩
        obtain rfl := Except.ok.inj (htext.symm.trans htext')
        exact ⟨parsed, hparse, hover⟩
      · rintro ⟨parsed, hparse, rfl, hover⟩
        exact ⟨text, parsed, htext, hparse, h parsed hparse hover, rfl, hover⟩
  · intro text parsed problem htext hparse hcheck
    rw [ofFile_of_parse htext hparse, checked_of_error hcheck]
    rfl

/-- The text of a configuration that asks for no time at all, and an environment with a minute
instead. -/
def zeroTimeoutText : String := "[readiness]\ntimeout_secs = 0\n"

def minuteEnvironment : Environment := fun name =>
  if name = "WORKBENCH_PROBE_READINESS_TIMEOUT_SECS" then some "60" else none

theorem load_of_zero_timeout :
    let file : File := .bytes (Text.Utf8.encode zeroTimeoutText)
    let parsed : Configuration := { readinessTimeout := 0 }
    let problem : ConfigProblem := .invalid "readiness.timeout_secs" "must be greater than 0"
    file.text = .ok zeroTimeoutText ∧ parse zeroTimeoutText = .ok parsed ∧
      parsed.check = .error problem ∧
      (load "p.toml" file minuteEnvironment ⟨0, []⟩).value = some (.error (.config problem)) := by
  intro file parsed problem
  have htext : file.text = .ok zeroTimeoutText := by decide +kernel
  have hparse : parse zeroTimeoutText = .ok parsed := by decide +kernel
  have hcheck : parsed.check = .error problem := by decide +kernel
  obtain ⟨result, hvalue, -, -, hproblem⟩ :=
    load_requires_valid_file "p.toml" file minuteEnvironment ⟨0, []⟩
  refine ⟨htext, hparse, hcheck, ?_⟩
  rw [hvalue, hproblem zeroTimeoutText parsed problem htext hparse hcheck]

/-- A file that gives a zero timeout cannot be loaded, although the environment replaces the zero
and the configuration passes the checks under it. -/
theorem load_refuses_replaced_value :
    (load "p.toml" (.bytes (Text.Utf8.encode zeroTimeoutText)) minuteEnvironment ⟨0, []⟩).value =
        some (.error (.config (.invalid "readiness.timeout_secs" "must be greater than 0"))) ∧
      inOrder minuteEnvironment zeroTimeoutText = .ok { readinessTimeout := 60 } := by
  decide +kernel

end NotebookCheck.Configuration

import NotebookCheck.Proofs.ConfigurationVerdict

namespace NotebookCheck

/-- The exit code for what is wrong with a file that cannot be used: 10 if no text could be read, and
2 if the fault lies with the text. -/
def File.faultCode (file : File) : ℕ :=
  match file.text with
  | .error _ => 10
  | .ok _ => 2

namespace Configuration

section

variable {path : String} {file : File} {env : Environment} {problem : Problem}

theorem exists_reason_of_text_error (hfile : file ≠ .missing) {fault : File.Fault}
    (htext : file.text = .error fault) : ∃ reason, fault = .unreadable reason := by
  cases file with
  | missing => exact absurd rfl hfile
  | unreadable reason =>
      cases htext
      exact ⟨reason, rfl⟩
  | bytes content =>
      rw [File.text] at htext
      split at htext
      case h_1 => cases htext
      case h_2 =>
          cases htext
          exact ⟨_, rfl⟩

theorem exists_config_of_checked_error {c : Configuration} (h : c.checked = .error problem) :
    ∃ found, problem = .config found := by
  rw [checked] at h
  split at h
  case h_1 => cases h
  case h_2 found _ =>
      cases h
      exact ⟨found, rfl⟩

/-- Whatever is wrong with a text, or with the configuration that it gives under the environment,
is a problem of configuration. -/
theorem exists_config_of_settled_error {text : String} (htext : file.text = .ok text)
    (h : settled path file env = .error problem) : ∃ found, problem = .config found := by
  cases hfile : ofFile path file with
  | error first =>
      rw [settled, hfile] at h
      cases h
      cases hparse : parse text with
      | error found =>
          simp only [ofFile, htext, hparse] at hfile
          cases hfile
          exact ⟨found, rfl⟩
      | ok parsed =>
          rw [ofFile_of_parse htext hparse] at hfile
          exact exists_config_of_checked_error hfile
  | ok c =>
      rw [settled, hfile] at h
      exact exists_config_of_checked_error h

theorem exitCode_core_of_settled_error (hfile : file ≠ .missing)
    (h : settled path file env = .error problem) :
    (CommandLine.Failure.core problem).exitCode = file.faultCode := by
  cases htext : file.text with
  | error fault =>
      obtain ⟨reason, rfl⟩ := exists_reason_of_text_error hfile htext
      rw [settled, ofFile, htext] at h
      cases h
      rw [File.faultCode, htext]
      rfl
  | ok text =>
      obtain ⟨found, rfl⟩ := exists_config_of_settled_error htext h
      rw [File.faultCode, htext]
      rfl

theorem faultCode_eq_two_iff : file.faultCode = 2 ↔ ∃ text, file.text = .ok text := by
  rw [File.faultCode]
  cases file.text with
  | error fault => simp
  | ok text => simp

end

end Configuration

namespace CommandLine

def Invocation.exitCode? (i : Invocation) (s : Surroundings) (m : Moment) : Option ℕ :=
  ((i.run s).run m).value.map exitCodeOf

section

variable (s : Surroundings) {path : String} (hfile : s.file path ≠ .missing) {problem : Problem}
  (hsettled : Configuration.settled path (s.file path) s.env = .error problem)
  (level : Option String) (format : Format) (m : Moment)

include hsettled

theorem value_showConfig_of_problem (sectionName : Option String) :
    ((showConfig s format path sectionName).run m).value = some (.error (.core problem)) := by
  have hload (m : Moment) : ((loadToShow s path).run m).value = some (.error (.core problem)) := by
    rw [run_loadToShow, hsettled]
    rfl
  rw [showConfig_eq, run_perform_bind _ rfl, Trace.value_followedBy,
    Attempt.run_bind_of_error _ _ _ (hload _)]

include hfile

theorem exitCode?_showConfig_of_problem (sectionName : Option String) :
    Invocation.exitCode? ⟨path, level, format, .showConfig sectionName⟩ s m =
      some (s.file path).faultCode := by
  have hrun : Invocation.run ⟨path, level, format, .showConfig sectionName⟩ s =
      Run.perform (loadConfig s path) >>= fun _ => showConfig s format path sectionName := rfl
  rw [Invocation.exitCode?, hrun, run_perform_bind _ (value_loadConfig s hfile m),
    Trace.value_followedBy, value_showConfig_of_problem s hsettled]
  exact congrArg some (Configuration.exitCode_core_of_settled_error hfile hsettled)

end

/-- The exit codes of a configuration file that is there but cannot be loaded.  Showing it ends with
the code for its fault, which is 10 if the file could not be read or is no text, and otherwise 2.
Each command that examines a target ends with 2, whatever the fault is.  So all of them have the code
for the fault exactly if the file could be read. -/
theorem exit_codes_of_unusable_configuration (s : Surroundings) {path : String}
    (hfile : s.file path ≠ .missing) {problem : Problem} {m₀ : Moment}
    (hload : (Configuration.load path (s.file path) s.env m₀).value = some (.error problem))
    (level : Option String) (format : Format) (m : Moment) :
    (∀ sectionName,
      Invocation.exitCode? ⟨path, level, format, .showConfig sectionName⟩ s m =
        some (s.file path).faultCode) ∧
    ∀ action : Action, action.Examines →
      Invocation.exitCode? ⟨path, level, format, action⟩ s m = some 2 ∧
      (Invocation.exitCode? ⟨path, level, format, action⟩ s m = some (s.file path).faultCode ↔
        ∃ text, (s.file path).text = .ok text) := by
  have hsettled := hload
  rw [Configuration.value_load_eq_settled, Option.some_inj] at hsettled
  refine ⟨exitCode?_showConfig_of_problem s hfile hsettled level format m, ?_⟩
  intro action haction
  have hcode : Invocation.exitCode? ⟨path, level, format, action⟩ s m = some 2 :=
    (endsWithConfiguration_of_unusable s level format hfile haction hsettled m).exitCode
  refine ⟨hcode, ?_⟩
  rw [hcode, Option.some_inj, eq_comm, Configuration.faultCode_eq_two_iff]

def surroundingsOf (file : File) : Surroundings where
  file _ := file
  env _ := none
  styled := false
  connect _ := Attempt.fail (.connection "refused")

def waitForPod : Action := .wait { place := ⟨none, "nb", false⟩, timeout := none }

theorem exit_codes_of_octets_that_are_no_text :
    let s := surroundingsOf (.bytes [0xC3, 0x28])
    (s.file "p.toml").text = .error (.unreadable "stream did not contain valid UTF-8") ∧
      Invocation.exitCode? ⟨"p.toml", none, .text, .showConfig none⟩ s ⟨0, []⟩ = some 10 ∧
      Invocation.exitCode? ⟨"p.toml", none, .text, waitForPod⟩ s ⟨0, []⟩ = some 2 := by
  intro s
  have htext : (s.file "p.toml").text =
      .error (.unreadable "stream did not contain valid UTF-8") := by decide +kernel
  have hload : (Configuration.load "p.toml" (s.file "p.toml") s.env ⟨0, []⟩).value =
      some (.error (.io "stream did not contain valid UTF-8")) := by decide +kernel
  have hcode : (s.file "p.toml").faultCode = 10 := by
    rw [File.faultCode, htext]
  have hfile : s.file "p.toml" ≠ .missing := File.noConfusion
  obtain ⟨hshown, hexamined⟩ :=
    exit_codes_of_unusable_configuration s hfile hload none .text ⟨0, []⟩
  refine ⟨htext, ?_, (hexamined waitForPod trivial).1⟩
  rw [hshown none, hcode]

/-- A directory in place of the configuration file ends the showing of the configuration with the
code for a file that cannot be read, and a wait with another one. -/
theorem wait_miscodes_directory :
    let s := surroundingsOf (.unreadable "Is a directory (os error 21)")
    Invocation.exitCode? ⟨"p.toml", none, .text, .showConfig none⟩ s ⟨0, []⟩ = some 10 ∧
      Invocation.exitCode? ⟨"p.toml", none, .text, waitForPod⟩ s ⟨0, []⟩ = some 2 := by
  decide +kernel

end CommandLine

end NotebookCheck

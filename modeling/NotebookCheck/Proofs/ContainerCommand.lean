import Mathlib.Data.List.Basic
import NotebookCheck.Docker.Container
import NotebookCheck.Http.Exchange

/-!
The end of a command in a container.  Once all that it prints is collected, its inspection decides:
an exit code other than zero is a failure, and zero a success.  An inspection without an exit code
counts as a success too: success is not always reported.
-/

namespace NotebookCheck.Docker

open Http Text Exchange

def exitReason (code : Int) (stderr : String) : String :=
  s!"command exited with code {code}" ++
    if (trim stderr).isEmpty then "" else ": " ++ trim stderr

theorem execOutcome_of_ne_zero (name : String) (output : Output) {code : Int} (h : code ≠ 0) :
    execOutcome name output (some code) =
      .error (.execution name (exitReason code output.stderr)) := by
  rw [execOutcome]
  simp only [h, if_false]
  rfl

theorem execOutcome_eq_ok_iff {name : String} {output : Output} {code : Option Int}
    {text : String} :
    execOutcome name output code = .ok text ↔
      output.stdout = text ∧ (code = none ∨ code = some 0) := by
  cases code with
  | none => simp [execOutcome]
  | some code =>
      by_cases hzero : code = 0
      · simp [execOutcome, hzero]
      · simp [execOutcome_of_ne_zero name output hzero, hzero]

theorem kind_of_execOutcome_eq_error {name : String} {output : Output} {code : Option Int}
    {fault : Fault} (h : execOutcome name output code = .error fault) :
    fault.kind = .execution := by
  cases code with
  | none => cases h
  | some code =>
      by_cases hzero : code = 0
      · subst hzero
        cases h
      · rw [execOutcome_of_ne_zero name output hzero] at h
        cases h
        rfl

theorem kind_of_ofMessages_eq_error {messages : Option (List Message)} {fault : Fault}
    (h : Output.ofMessages messages = .error fault) : fault.kind = .api := by
  cases messages with
  | none =>
      cases h
      rfl
  | some messages => cases h

section Ask

variable {α : Type} {daemon : Daemon} {activity : String} {query : Query}
  {read : Response → Except QueryError α}

theorem result_ask :
    (ask daemon activity query read).result =
      (read (daemon query)).mapError (·.fault activity) := rfl

theorem result_ask_eq_ok_iff {a : α} :
    (ask daemon activity query read).result = .ok a ↔ read (daemon query) = .ok a := by
  rw [result_ask]
  cases read (daemon query) <;> simp [Except.mapError]

theorem kind_of_ask_eq_error {fault : Fault}
    (h : (ask daemon activity query read).result = .error fault) : fault.kind = .api := by
  rw [result_ask] at h
  cases hread : read (daemon query) with
  | error e =>
      rw [hread] at h
      cases h
      rfl
  | ok a =>
      rw [hread] at h
      cases h

end Ask

/-- A command is made in a container, under an id, and all that it prints is collected. -/
structure Ran (daemon : Daemon) (name : String) (argv : List String) (id : String)
    (output : Output) : Prop where
  made : ∃ created, (daemon (.createExec name argv)).value createdExec = .ok created ∧
    ((created.field? "Id").bind Json.text?).getD "" = id
  collected : ∃ arrivals, (daemon (.startExec id)).session = .ok arrivals ∧
    Output.ofMessages (Message.ofExec? arrivals) = .ok output

/-- The inspection of a command reports an exit code, or that it has none. -/
def Reports (daemon : Daemon) (id : String) (code : Option Int) : Prop :=
  ∃ ended, (daemon (.exec id)).value Docker.exec = .ok ended ∧ exitCode? ended = code

/-- A command ran, printed a text, and its inspection reported the exit code of a success. -/
def ReportsSuccess (daemon : Daemon) (name : String) (argv : List String) (text : String) :
    Prop :=
  ∃ id output, Ran daemon name argv id output ∧ output.stdout = text ∧
    Reports daemon id (some 0)

section Execute

variable {daemon : Daemon} {name : String} {argv : List String}

theorem result_execute_of_ran {id : String} {output : Output} {code : Option Int}
    (hran : Ran daemon name argv id output) (hcode : Reports daemon id code) :
    (execute daemon name argv).result = execOutcome name output code := by
  obtain ⟨⟨created, hcreated, rfl⟩, arrivals, harrivals, houtput⟩ := hran
  obtain ⟨ended, hended, rfl⟩ := hcode
  rw [execute, result_bind_of_ok _ (result_ask_eq_ok_iff.mpr hcreated),
    result_bind_of_ok _ (result_ask_eq_ok_iff.mpr harrivals),
    result_bind_of_ok _ ((result_ofExcept _).trans houtput),
    result_bind_of_ok _ (result_ask_eq_ok_iff.mpr hended)]
  rfl

theorem execute_eq_ok_iff {text : String} :
    (execute daemon name argv).result = .ok text ↔
      ∃ id output, Ran daemon name argv id output ∧ output.stdout = text ∧
        (Reports daemon id none ∨ Reports daemon id (some 0)) := by
  constructor
  · intro h
    obtain ⟨created, hcreated, h⟩ := result_bind_eq_ok_iff.mp h
    obtain ⟨arrivals, harrivals, h⟩ := result_bind_eq_ok_iff.mp h
    obtain ⟨output, houtput, h⟩ := result_bind_eq_ok_iff.mp h
    obtain ⟨ended, hended, h⟩ := result_bind_eq_ok_iff.mp h
    obtain ⟨htext, hcode⟩ := execOutcome_eq_ok_iff.mp h
    have hreports := result_ask_eq_ok_iff.mp hended
    refine ⟨_, output, ⟨⟨created, result_ask_eq_ok_iff.mp hcreated, rfl⟩, arrivals,
      result_ask_eq_ok_iff.mp harrivals, houtput⟩, htext, ?_⟩
    rcases hcode with hnone | hzero
    · exact .inl ⟨ended, hreports, hnone⟩
    · exact .inr ⟨ended, hreports, hzero⟩
  · rintro ⟨id, output, hran, htext, hnone | hzero⟩
    · rw [result_execute_of_ran hran hnone]
      exact execOutcome_eq_ok_iff.mpr ⟨htext, .inl rfl⟩
    · rw [result_execute_of_ran hran hzero]
      exact execOutcome_eq_ok_iff.mpr ⟨htext, .inr rfl⟩

theorem kind_of_execute_eq_error {fault : Fault}
    (h : (execute daemon name argv).result = .error fault) :
    fault.kind = .execution ∨ fault.kind = .api := by
  rcases result_bind_eq_error_iff.mp h with hcreate | ⟨created, -, h⟩
  · exact .inr (kind_of_ask_eq_error hcreate)
  rcases result_bind_eq_error_iff.mp h with hstart | ⟨arrivals, -, h⟩
  · exact .inr (kind_of_ask_eq_error hstart)
  rcases result_bind_eq_error_iff.mp h with houtput | ⟨output, -, h⟩
  · exact .inr (kind_of_ofMessages_eq_error houtput)
  rcases result_bind_eq_error_iff.mp h with hinspect | ⟨ended, -, h⟩
  · exact .inr (kind_of_ask_eq_error hinspect)
  exact .inl (kind_of_execOutcome_eq_error h)

theorem Ran.unique {id other : String} {output found : Output}
    (h : Ran daemon name argv id output) (hother : Ran daemon name argv other found) :
    other = id ∧ found = output := by
  obtain ⟨⟨created, hcreated, rfl⟩, arrivals, harrivals, houtput⟩ := h
  obtain ⟨⟨created', hcreated', rfl⟩, arrivals', harrivals', houtput'⟩ := hother
  cases hcreated.symm.trans hcreated'
  cases harrivals.symm.trans harrivals'
  cases houtput.symm.trans houtput'
  exact ⟨rfl, rfl⟩

end Execute

theorem Reports.unique {daemon : Daemon} {id : String} {code other : Option Int}
    (h : Reports daemon id code) (hother : Reports daemon id other) : other = code := by
  obtain ⟨ended, hended, rfl⟩ := h
  obtain ⟨ended', hended', rfl⟩ := hother
  cases hended.symm.trans hended'
  rfl

/-- When a success has been reported.  A command that is not successful fails as an execution or as
a query, and an exit code other than zero is named in its failure.  One is successful if all it
printed was collected and its inspection does not report such a code; so its success has been
reported exactly if no inspection of a command that ran is without an exit code. -/
theorem execute_reports_success_iff (daemon : Daemon) (name : String) (argv : List String) :
    let result := (execute daemon name argv).result
    (∀ fault, result = .error fault → fault.kind = .execution ∨ fault.kind = .api) ∧
    (∀ id output code, Ran daemon name argv id output → Reports daemon id (some code) →
      code ≠ 0 → result = .error (.execution name (exitReason code output.stderr))) ∧
    (∀ text, result = .ok text ↔
      ∃ id output, Ran daemon name argv id output ∧ output.stdout = text ∧
        (Reports daemon id none ∨ Reports daemon id (some 0))) ∧
    ((∀ text, result = .ok text → ReportsSuccess daemon name argv text) ↔
      ∀ id output, Ran daemon name argv id output → ¬ Reports daemon id none) := by
  intro result
  refine ⟨fun _ => kind_of_execute_eq_error, ?_, fun _ => execute_eq_ok_iff, ?_, ?_⟩
  · intro id output code hran hcode hzero
    rw [← execOutcome_of_ne_zero name output hzero]
    exact result_execute_of_ran hran hcode
  · intro h id output hran hnone
    obtain ⟨other, found, hother, -, hzero⟩ :=
      h output.stdout (execute_eq_ok_iff.mpr ⟨id, output, hran, rfl, .inl hnone⟩)
    obtain ⟨rfl, -⟩ := hran.unique hother
    cases hnone.unique hzero
  · intro h text hok
    obtain ⟨id, output, hran, htext, hnone | hzero⟩ := execute_eq_ok_iff.mp hok
    · exact absurd hnone (h id output hran)
    · exact ⟨id, output, hran, htext, hzero⟩

def hastyDaemon : Daemon
  | .createExec _ _ => { status := 201, body := Utf8.encode "\x7b\"Id\":\"e1\"\x7d" }
  | .startExec _ => { status := Http.switchingProtocols }
  | _ => { status := 200, body := Utf8.encode "\x7b\"Running\":true\x7d" }

/-- A command that still runs is successful, and its success has not been reported. -/
theorem execute_succeeds_without_exit_code :
    ¬ ∀ text, (execute hastyDaemon "nb" ["python", "-c", "import os"]).result = .ok text →
      ReportsSuccess hastyDaemon "nb" ["python", "-c", "import os"] text := by
  intro h
  have hok : (execute hastyDaemon "nb" ["python", "-c", "import os"]).result = .ok "" := by
    decide +kernel
  obtain ⟨id, output, -, -, hzero⟩ := h "" hok
  have hcode : ((hastyDaemon (.exec "e1")).value Docker.exec).toOption.map exitCode? =
      some none := by
    decide +kernel
  have hnone : Reports hastyDaemon id none := by
    cases hended : (hastyDaemon (.exec "e1")).value Docker.exec with
    | error flaw => simp [hended, Except.toOption] at hcode
    | ok ended => exact ⟨ended, hended, by simpa [hended, Except.toOption] using hcode⟩
  cases hnone.unique hzero

end NotebookCheck.Docker

import NotebookCheck.Proofs.PackageRequest
import NotebookCheck.Proofs.Records

namespace NotebookCheck

/-- What an identifier may begin with: a letter from A to Z, large or small, or an underscore. -/
def IsIdentifierStart (c : Char) : Prop :=
  'A' ≤ c ∧ c ≤ 'Z' ∨ 'a' ≤ c ∧ c ≤ 'z' ∨ c = '_'

/-- What an identifier may go on with: the same, or a digit from 0 to 9. -/
def IsIdentifierPart (c : Char) : Prop := IsIdentifierStart c ∨ '0' ≤ c ∧ c ≤ '9'

/-- A text that is an identifier from its first character to its last. -/
def IsIdentifier (s : String) : Prop :=
  ∃ first rest, s.toList = first :: rest ∧ IsIdentifierStart first ∧
    ∀ c ∈ rest, IsIdentifierPart c

theorem isNameStart_iff (c : Char) : isNameStart c = true ↔ IsIdentifierStart c := by
  change ((decide (c.val ≥ 'A'.val ∧ c.val ≤ 'Z'.val) ||
    (decide (c.val ≥ 'a'.val) && decide (c.val ≤ 'z'.val))) || decide (c = '_')) = true ↔ _
  simp [IsIdentifierStart, or_assoc, Char.le_def]

theorem isNamePart_iff (c : Char) : isNamePart c = true ↔ IsIdentifierPart c := by
  rw [IsIdentifierPart, ← isNameStart_iff]
  simp [isNamePart, isNameStart, Char.isAlphanum, Char.isDigit, Char.le_def]
  tauto

theorem isPackageName_iff (name : String) : isPackageName name = true ↔ IsIdentifier name := by
  unfold isPackageName IsIdentifier
  cases name.toList with
  | nil => simp
  | cons first rest =>
      simp [isNameStart_iff, isNamePart_iff]

theorem checkPackageName_eq_ok_iff (name : String) :
    checkPackageName name = .ok () ↔ IsIdentifier name := by
  rw [← isPackageName_iff, checkPackageName]
  split <;> simp_all

namespace Packages

section

variable {R : Request → Prop} (target : Target) {settings : Settings} {container : String}

theorem asks_collectLogs (hlog : R (.log container settings.logTailLines)) :
    Work.Asks R (collectLogs target settings container) := by
  refine Work.records_bind (Target.asks_await hlog _) fun answer => ?_
  cases answer with
  | ok logs => exact Work.records_pure logs
  | error fault =>
      refine Work.records_bind (Work.records_record trivial) fun _ => ?_
      exact Work.records_bind (Work.asks_note _ _ _) fun _ => Work.records_pure _

theorem asks_verifyOne (package : String) (timeout : ℕ)
    (hlog : R (.log container settings.logTailLines))
    (himport : R (importRequest settings container package)) :
    Work.Asks R (verifyOne target settings container package timeout) := by
  refine Work.records_bind (Work.asks_note _ _ _) fun _ => ?_
  refine Work.records_bind
    (Work.records_timed (Target.asks_awaitWithin timeout himport _)) fun answered => ?_
  refine Work.records_bind (Work.records_record trivial) fun _ => ?_
  split
  · refine Work.records_bind (Work.records_record trivial) fun _ => ?_
    exact Work.records_bind (Work.asks_note _ _ _) fun _ => Work.records_pure _
  · refine Work.records_bind (Work.records_record trivial) fun _ => ?_
    refine Work.records_bind (Work.asks_note _ _ _) fun _ => ?_
    split
    · exact Work.records_bind (Work.records_map some (asks_collectLogs target hlog))
        fun _ => Work.records_pure _
    · exact Work.records_bind (Work.records_pure none) fun _ => Work.records_pure _

theorem asks_verifyEach (timeout : ℕ) (report : PackageReport) (packages : List String)
    (hlog : R (.log container settings.logTailLines))
    (himport : ∀ package ∈ packages, R (importRequest settings container package)) :
    Work.Asks R (verifyEach target settings container timeout report packages) := by
  induction packages generalizing report with
  | nil => exact Work.records_pure report
  | cons package rest ih =>
      rw [List.forall_mem_cons] at himport
      rw [verifyEach]
      split
      · exact Work.records_bind (Work.asks_note _ _ _) fun _ => ih report himport.2
      · refine Work.records_bind
          (asks_verifyOne target package timeout hlog himport.1) fun result => ?_
        exact ih (report.add result) himport.2

theorem records_checkTarget {P : Entry → Prop} (container : String)
    (hsnapshot : ∀ time, P (.call ⟨time, .snapshot⟩)) :
    Work.Records P (checkTarget target container).run := by
  refine Attempt.records_bind (target.records_presentSnapshot hsnapshot) fun snapshot => ?_
  split
  · exact Attempt.records_ofExcept _
  · split
    · exact Attempt.records_ofExcept _
    · exact Attempt.records_pure _

/-- A batch asks how the target stands, for imports of the given packages and for the log, and
does nothing else outside. -/
theorem asks_verify (packages : List String) (timeout : ℕ) (hsnapshot : R .snapshot)
    (hlog : R (.log container settings.logTailLines))
    (himport : ∀ package ∈ packages, R (importRequest settings container package)) :
    Work.Asks R (verify target settings container packages timeout).run := by
  refine Attempt.records_bind (Attempt.records_ofExcept _) fun _ => ?_
  refine Attempt.records_bind (records_checkTarget target container fun _ => hsnapshot) fun _ => ?_
  refine Attempt.records_bind (Attempt.asks_note _ _ _) fun _ => ?_
  refine Attempt.records_bind (Attempt.records_lift
    (asks_verifyEach target timeout .empty packages hlog himport)) fun report => ?_
  exact Attempt.records_bind (Attempt.asks_note _ _ _) fun _ => Attempt.records_pure report

end

/-- No code is injected.  The names that are accepted are the identifiers.  Whatever texts a batch
is given and however the target behaves, every command that is run is an import of a given
identifier, and none is run if one of the texts is no identifier. -/
theorem verify_runs_only_imports_of_identifiers (target : Target) (settings : Settings)
    (container : String) (packages : List String) (timeout : ℕ) (m : Moment) :
    let t := (verify target settings container packages timeout).run m
    (∀ name, checkPackageName name = .ok () ↔ IsIdentifier name) ∧
    (∀ call ∈ t.calls, ∀ place argv, call.request = .execute place argv →
      ∃ package ∈ packages, IsIdentifier package ∧ place = container ∧
        argv = [settings.runtime, "-c", "import " ++ package]) ∧
    ((∃ package ∈ packages, ¬ IsIdentifier package) →
      ∀ call ∈ t.calls, ∀ place argv, call.request ≠ .execute place argv) := by
  intro t
  refine ⟨checkPackageName_eq_ok_iff, ?_⟩
  cases hfault : firstFault (requestFaults packages timeout) with
  | some fault =>
      -- Nothing is asked of the target after a fault of the request.
      have hcalls : t.calls = [] := by
        simp only [t, run_verify_of_requestFault settings hfault]
        rfl
      simp [hcalls]
  | none =>
      obtain ⟨-, -, hnames⟩ :=
        (firstFault_requestFaults_eq_none_iff packages timeout).mp hfault
      have hidentifiers : ∀ package ∈ packages, IsIdentifier package :=
        fun package hpackage => (isPackageName_iff package).mp (hnames package hpackage)
      refine ⟨?_, ?_⟩
      · intro call hcall
        refine (asks_verify (R := fun request => ∀ place argv,
          request = .execute place argv → ∃ package ∈ packages, IsIdentifier package ∧
            place = container ∧ argv = [settings.runtime, "-c", "import " ++ package])
          target packages timeout ?_ ?_ ?_).of_mem_calls hcall
        · intro place argv h
          cases h
        · intro place argv h
          cases h
        · rintro package hpackage place argv h
          cases h
          exact ⟨package, hpackage, hidentifiers package hpackage, rfl, rfl⟩
      · rintro ⟨package, hpackage, hnot⟩
        exact absurd (hidentifiers package hpackage) hnot

end Packages

end NotebookCheck

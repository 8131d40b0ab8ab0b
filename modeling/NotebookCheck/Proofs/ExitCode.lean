import NotebookCheck.Proofs.ComparisonCourse
import NotebookCheck.Proofs.PrintedReports

namespace NotebookCheck

theorem SnippetReport.failed_eq_nil_iff (r : SnippetReport) :
    SnippetReport.failed r = [] ↔ ∀ outcome ∈ r.values, outcome.success = true := by
  simp only [failed, Ledger.namesWhere, Ledger.values, List.map_eq_nil_iff,
    List.filter_eq_nil_iff, List.forall_mem_map, Bool.not_eq_true', Bool.not_eq_false]

namespace CommandLine

section Silence

variable (s : Surroundings) (config : Configuration)

/-- Nothing is printed while a target is reached. -/
def Surroundings.ReachesSilently : Prop :=
  ∀ backend, (s.connect backend).run.Records Entry.IsSilent

variable {s}

theorem silent_reach (hs : s.ReachesSilently) (place : Place) :
    (s.reach config place).run.Records Entry.IsSilent :=
  Attempt.records_bind (Attempt.records_lift (Work.records_record rfl)) fun _ => hs _

theorem silent_examinePackages (hs : s.ReachesSilently) (o : VerifyOptions) :
    (examinePackages s config o).run.Records Entry.IsSilent := by
  refine Attempt.records_bind (Attempt.records_ofExcept _) fun _ => ?_
  refine Attempt.records_bind (Attempt.records_ofExcept _) fun _ => ?_
  refine Attempt.records_bind (silent_reach config hs _) fun target => ?_
  refine Attempt.records_bind (Packages.asks_verify (R := fun _ => True) target _ _ trivial
    trivial fun _ _ => trivial).isSilent fun results => ?_
  exact Attempt.records_bind (Attempt.asks_note (R := fun _ => True) _ _ _).isSilent
    fun _ => Attempt.records_pure _

theorem silent_waitReport (target : Target) (settings : Settings) :
    (waitReport target settings).run.Records Entry.IsSilent := by
  refine Work.records_bind (Readiness.asks_waitUntilReady (R := fun _ => True) target settings
    trivial fun _ => trivial).isSilent fun ended => ?_
  split
  · exact Work.records_pure _
  · exact Work.records_pure _
  · exact Work.records_pure _

theorem silent_examineReadiness (hs : s.ReachesSilently) (o : WaitOptions) :
    (examineReadiness s config o).run.Records Entry.IsSilent := by
  refine Attempt.records_bind (Attempt.records_ofExcept _) fun _ => ?_
  refine Attempt.records_bind (silent_reach config hs _) fun target => ?_
  exact silent_waitReport target _

theorem silent_passCheckpoint (d : Deadline) (phase : String) :
    (passCheckpoint d phase).run.Records Entry.IsSilent :=
  Work.records_bind (d.asks_checkpoint (R := fun _ => True) phase).isSilent
    fun _ => Work.records_pure _

theorem silent_checkPhases (target : Target) (settings : Settings) (container : String)
    (checks : List SnippetCheck) (d : Deadline) :
    (checkPhases target settings container checks d).run.Records Entry.IsSilent := by
  refine Attempt.records_bind (Readiness.asks_waitUntilReady (R := fun _ => True) target settings
    trivial fun _ => trivial).isSilent fun _ => ?_
  refine Attempt.records_bind (silent_passCheckpoint d _) fun d => ?_
  refine Attempt.records_bind (Readiness.asks_waitForConnection (R := fun _ => True) target
    container settings trivial).isSilent fun _ => ?_
  refine Attempt.records_bind (silent_passCheckpoint d _) fun d => ?_
  exact Work.records_bind (Snippet.asks_runSuite (R := fun _ => True) target settings container
    checks d fun _ _ => trivial).isSilent fun _ => Work.records_pure _

theorem silent_examineSnippets (hs : s.ReachesSilently) (o : CheckOptions) :
    (examineSnippets s config o).run.Records Entry.IsSilent := by
  refine Attempt.records_bind (Attempt.records_ofExcept _) fun checks => ?_
  refine Attempt.records_bind (Attempt.records_ofExcept _) fun _ => ?_
  refine Attempt.records_bind (Attempt.records_lift
    (Deadline.asks_start (R := fun _ => True) _).isSilent) fun d => ?_
  refine Attempt.records_bind (silent_reach config hs _) fun target => ?_
  refine Attempt.records_bind (silent_checkPhases target _ _ checks d) fun ended => ?_
  exact Attempt.records_bind (Attempt.records_lift
    (ended.2.asks_finish (R := fun _ => True)).isSilent) fun _ => Attempt.records_pure _

theorem silent_examineSidecar (hs : s.ReachesSilently) (place : Place)
    (annotations : List (String × String)) :
    (examineSidecar s config place annotations).run.Records Entry.IsSilent := by
  refine Attempt.records_bind (Attempt.records_ofExcept _) fun expected => ?_
  refine Attempt.records_bind (silent_reach config hs _) fun target => ?_
  refine Attempt.records_bind
    (target.asks_presentSnapshot (R := fun _ => True) trivial).isSilent fun snapshot => ?_
  refine Attempt.records_bind (Attempt.asks_note (R := fun _ => True) _ _ _).isSilent fun _ => ?_
  exact Attempt.records_bind (Sidecar.asks_check (R := fun _ => True) snapshot expected).isSilent
    fun _ => Attempt.records_pure _

end Silence

theorem false_not_mem_map_iff {α : Type} {good : α → Bool} {items : List α} :
    false ∉ items.map good ↔ ∀ a ∈ items, good a = true := by
  simp

theorem VerifyReport.failsWith :
    FailsWith VerifyReport.failure? VerifyReport.flags Failure.verification where
  of_good r h := by
    rw [failure?, PackageReport.allSuccessful, if_pos]
    exact List.all_eq_true.mpr (false_not_mem_map_iff.mp h)
  of_bad r h := by
    rw [failure?, PackageReport.allSuccessful, if_neg]
    · exact ⟨_, rfl⟩
    · exact fun hall => false_not_mem_map_iff.mpr (List.all_eq_true.mp hall) h

theorem CheckReport.failsWith :
    FailsWith CheckReport.failure? CheckReport.flags Failure.verification where
  of_good r h := by
    rw [failure?, (SnippetReport.failed_eq_nil_iff r.results).mpr (false_not_mem_map_iff.mp h)]
    rfl
  of_bad r h := by
    have hfailed : SnippetReport.failed r.results ≠ [] := fun hnil =>
      false_not_mem_map_iff.mpr ((SnippetReport.failed_eq_nil_iff r.results).mp hnil) h
    rw [ne_eq, ← List.isEmpty_iff] at hfailed
    exact ⟨_, if_neg hfailed⟩

theorem WaitReport.failsWith (seconds : ℕ) :
    FailsWith (WaitReport.failure? seconds) WaitReport.flags Failure.timeout where
  of_good r h := if_pos (by simpa [flags] using h)
  of_bad r h := ⟨_, if_neg (by simpa [flags] using h)⟩

theorem ResourcesReport.failsWith :
    FailsWith ResourcesReport.failure? ResourcesReport.flags Failure.verification where
  of_good r h := if_pos (by simpa [flags] using h)
  of_bad r h := ⟨_, if_neg (by simpa [flags] using h)⟩

section Resources

variable (s : Surroundings) (format : Format) (config : Configuration) {o : ResourcesOptions}
  {m : Moment}

theorem run_resources_of_annotations {annotations : List (String × String)}
    (h : o.annotations.mapM annotationOf = .ok annotations) :
    (resources s format config o).run m =
      (examineAndConclude s format (examineSidecar s config o.place annotations)
        ResourcesReport.report ResourcesReport.failure?).run m := by
  rw [resources, h]
  change (Trace.mk (some (Except.ok annotations)) 0 []).followedBy _ = _
  simp only [Trace.followedBy, Nat.zero_add, List.nil_append]
  rfl

theorem run_resources_of_no_annotations {f : Failure}
    (h : o.annotations.mapM annotationOf = .error f) :
    (resources s format config o).run m = ⟨some (.error f), 0, []⟩ := by
  rw [resources, h]
  rfl

end Resources

/-- Exit codes tell the truth.  If nothing is printed while a target is reached, the exit code of a
command that examines a target is zero exactly if it has printed a report in whose text or JSON
every package, every check, the target, or the sidecar is told to be as it should be.  A report that
tells otherwise makes a verification, a check and a comparison of resources fail as such, and a wait
time out.  A command that does not come to a report, as what was asked for, its settings, the
connection or the target prevent it, prints nothing and has the exit code of what prevented it. -/
theorem exit_codes_tell (s : Surroundings) (hs : s.ReachesSilently) (format : Format)
    (config : Configuration) (m : Moment) :
    (∀ o : VerifyOptions, ExitTells (o.told s.styled format) Failure.verification 5
      (VerifyEnds s config o m) ((verify s format config o).run m)) ∧
    (∀ o : CheckOptions, ExitTells (o.told s.styled format) Failure.verification 5
      (CheckEnds s config o m) ((check s format config o).run m)) ∧
    (∀ o : WaitOptions, ExitTells (WaitOptions.told s.styled format) Failure.timeout 6
      (WaitEnds s config o m) ((wait s format config o).run m)) ∧
    (∀ o : ResourcesOptions, ExitTells (o.told s.styled format) Failure.verification 5
      (ResourcesEnds s config o m) ((resources s format config o).run m)) := by
  refine ⟨fun o => ?_, fun o => ?_, fun o => ?_, fun o => ?_⟩
  · refine exitTells_examineAndConclude s format _ _ _ m (silent_examinePackages config hs o)
      VerifyReport.failsWith (fun _ => rfl) (fun r hr => ?_)
      (verifyEnds_examinePackages s config o m)
    obtain ⟨htarget, hcontainer, hnames⟩ := of_value_examinePackages hr
    exact VerifyReport.told_rendered s format o r htarget hcontainer hnames
  · refine exitTells_examineAndConclude s format _ _ _ m (silent_examineSnippets config hs o)
      CheckReport.failsWith (fun _ => rfl) (fun r hr => ?_)
      (checkEnds_examineSnippets s config o m)
    obtain ⟨htarget, hcontainer, hsuite, hnames⟩ := of_value_examineSnippets hr
    exact CheckReport.told_rendered s format o r htarget hcontainer hsuite hnames
  · exact exitTells_examineAndConclude s format _ _ _ m (silent_examineReadiness config hs o)
      (WaitReport.failsWith _) (fun _ => rfl)
      (fun r _ => WaitReport.told_rendered s format r) (waitEnds_examineReadiness s config o m)
  · cases hwords : o.annotations.mapM annotationOf with
    | error f =>
        have hcode := annotations_error hwords
        have hverification : ∀ summary, f ≠ .verification summary := by
          rintro summary rfl
          cases hcode
        rw [run_resources_of_no_annotations s format config hwords]
        refine exitTells_of_failure hverification ?_ rfl rfl
        rw [hcode]
        refine .misspelt fun ⟨pairs, hpairs⟩ => ?_
        cases hwords.symm.trans ((annotations_eq_ok_iff o.annotations pairs).mpr hpairs)
    | ok pairs =>
        rw [run_resources_of_annotations s format config hwords]
        exact exitTells_examineAndConclude s format _ _ _ m
          (silent_examineSidecar config hs o.place pairs) ResourcesReport.failsWith (fun _ => rfl)
          (fun r hr => ResourcesReport.told_rendered s format o r (of_value_examineSidecar hr))
          (resourcesEnds_examineSidecar hwords m)

def unlimitedSurroundings : Surroundings where
  file _ := .missing
  env _ := none
  styled := false
  connect _ := Attempt.ofExcept (.ok {
    name := "nb-0"
    onSnapshot _ := .after 3 (.ok (some {
      name := "nb-0", phase := .running, containers := [{ name := Sidecar.containerName }] }))
    onExecute _ _ _ := .never
    onLog _ _ _ := .never })

def limitOptions : ResourcesOptions where
  place := ⟨none, "nb-0", true⟩
  annotations := ["notebooks.opendatahub.io/auth-sidecar-cpu-limit=500m"]

def limitLines : List String :=
  ["\x7b", "  \"target\": \"nb-0\",", "  \"container\": \"kube-rbac-proxy\",",
    "  \"checked\": 1,", "  \"matches\": false,", "  \"mismatches\": [", "    \x7b",
    "      \"field\": \"CPU limit\",", "      \"expected\": \"500m\",",
    "      \"actual\": null", "    \x7d", "  ]", "\x7d"]

theorem resources_without_expected_limit :
    unlimitedSurroundings.ReachesSilently ∧
    ((resources unlimitedSurroundings .json {} limitOptions).run ⟨0, []⟩).prints =
      [String.join (limitLines.map line)] ∧
    ((resources unlimitedSurroundings .json {} limitOptions).run ⟨0, []⟩).value.map exitCodeOf =
      some 5 := by
  have hs : unlimitedSurroundings.ReachesSilently := fun _ => Attempt.records_ofExcept _
  obtain ⟨-, -, -, htells⟩ := exit_codes_tell unlimitedSurroundings hs .json {} ⟨0, []⟩
  have hprints : ((resources unlimitedSurroundings .json {} limitOptions).run ⟨0, []⟩).prints =
      [String.join (limitLines.map line)] := by
    decide +kernel
  refine ⟨hs, hprints, ((htells limitOptions).of_bad _ hprints ?_).1⟩
  decide +kernel

end CommandLine

end NotebookCheck

import NotebookCheck.Proofs.PackageRequest

namespace NotebookCheck.Packages

open Number

variable {target : Target} {settings : Settings} {container : String} {timeout : Nat}

/-- The runs of a batch: the moment at which each new package is imported, and its result. -/
theorem exists_runs_of_verifyEach {report report' : PackageReport} (packages : List String)
    {m : Moment}
    (h : (verifyEach target settings container timeout report packages m).value =
      some report') :
    ∃ runs : List (Moment × PackageResult),
      runs.map (fun run => run.2.package) =
          (packages.filter (· ∉ report.names)).eraseDups ∧
        (verifyEach target settings container timeout report packages m).asked m =
          runs.flatMap (fun run =>
            importAsked target settings container timeout run.2.package run.1) ∧
        report'.entries = report.entries ++ runs.map (fun run => (run.2.package, run.2)) ∧
        ∀ run ∈ runs,
          Tells target settings container timeout run.2.package run.1 run.2 := by
  induction packages generalizing report m with
  | nil =>
      cases h
      exact ⟨[], rfl, rfl, by simp, by simp⟩
  | cons package rest ih =>
      -- A known package adds no run; a new one adds a run and its name to those known later on.
      by_cases hknown : package ∈ report.names
      · rw [verifyEach_of_known rest hknown] at h ⊢
        rw [Work.asked_note_bind, List.filter_cons_of_neg (by simpa using hknown)]
        exact ih h
      · rw [verifyEach_of_new rest hknown] at h ⊢
        obtain ⟨result, hresult, hrest⟩ := (Work.value_bind_eq_some_iff _ _ _ _).mp h
        have htells := tells_of_verifyOne hresult
        have hpackage := htells.package_eq
        have hentries : (report.add result).entries =
            report.entries ++ [(package, result)] := by
          rw [PackageReport.add, hpackage, Ledger.entries_insert_of_not_mem result hknown]
        have hnames : (report.add result).names = report.names ++ [package] := by
          simp [Ledger.names, hentries]
        obtain ⟨runs, hpackages, hasked, hreport, hruns⟩ := ih hrest
        refine ⟨(m, result) :: runs, ?_, ?_, ?_, ?_⟩
        · rw [Ledger.eraseDups_filter_cons_of_not_mem rest hknown, ← hnames, ← hpackages,
            List.map_cons, hpackage]
        · rw [Work.bind_of_value _ _ _ hresult, Trace.asked_followedBy, asked_verifyOne,
            hasked, List.flatMap_cons, hpackage]
        · rw [hreport, hentries]
          simp [hpackage]
        · rw [List.forall_mem_cons]
          exact ⟨hpackage.symm ▸ htells, hruns⟩

theorem isSome_value_verifyEach (timeout : Nat)
    (hlogs : ∀ m', target.onLog m' container settings.logTailLines ≠ .never)
    (report : PackageReport) (packages : List String) (m : Moment) :
    (verifyEach target settings container timeout report packages m).value.isSome = true := by
  induction packages generalizing report m with
  | nil => rfl
  | cons package rest ih =>
      by_cases hknown : package ∈ report.names
      · rw [verifyEach_of_known rest hknown]
        exact ih report m
      · obtain ⟨result, hresult⟩ := Option.isSome_iff_exists.mp
          (isSome_value_verifyOne package timeout m hlogs)
        rw [verifyEach_of_new rest hknown, Work.bind_of_value _ _ _ hresult]
        exact ih _ _

theorem exists_batch_of_value_verify {packages : List String} {m : Moment}
    {report : PackageReport}
    (h : ((verify target settings container packages timeout).run m).value =
      some (.ok report)) :
    ∃ delay,
      (verifyEach target settings container timeout .empty packages
        (batchStart m delay)).value = some report ∧
      ((verify target settings container packages timeout).run m).asked m =
        (m, .snapshot) ::
          (verifyEach target settings container timeout .empty packages
            (batchStart m delay)).asked (batchStart m delay) := by
  cases hrequest : firstFault (requestFaults packages timeout) with
  | some fault =>
      rw [run_verify_of_requestFault settings hrequest] at h
      cases h
  | none =>
      cases hsnapshot : target.onSnapshot m with
      | never =>
          rw [run_verify_of_never settings hrequest hsnapshot] at h
          cases h
      | after delay answer =>
          cases htarget : firstFault (targetFaults target.name container answer) with
          | some fault =>
              rw [run_verify_of_targetFault settings hrequest hsnapshot htarget] at h
              cases h
          | none =>
              refine ⟨delay, ?_, asked_verify_of_no_fault settings hrequest hsnapshot htarget⟩
              rw [run_verify_of_no_fault settings hrequest hsnapshot htarget] at h
              obtain ⟨found, hfound, heq⟩ := Option.map_eq_some_iff.mp h
              cases heq
              exact hfound

/-- The runs of a batch that gives a report: the moment at which each distinct package is imported,
and its result. -/
theorem exists_runs_of_verify {packages : List String} {m : Moment} {report : PackageReport}
    (h : ((verify target settings container packages timeout).run m).value =
      some (.ok report)) :
    ∃ runs : List (Moment × PackageResult),
      runs.map (fun run => run.2.package) = packages.eraseDups ∧
        ((verify target settings container packages timeout).run m).asked m =
          (m, .snapshot) :: runs.flatMap (fun run =>
            importAsked target settings container timeout run.2.package run.1) ∧
        report.entries = runs.map (fun run => (run.2.package, run.2)) ∧
        ∀ run ∈ runs,
          Tells target settings container timeout run.2.package run.1 run.2 := by
  obtain ⟨delay, hreport, hbatch⟩ := exists_batch_of_value_verify h
  obtain ⟨runs, hruns, hasked, hentries, htells⟩ := exists_runs_of_verifyEach packages hreport
  refine ⟨runs, ?_, ?_, hentries, htells⟩
  · rw [hruns]
    simp [Ledger.names, Ledger.empty]
  · rw [hbatch, hasked]

theorem exists_value_verify {packages : List String} {m : Moment} {delay : Nat}
    {snapshot : Snapshot}
    (hpackages : packages ≠ []) (htimeout : 0 < timeout)
    (hnames : ∀ package ∈ packages, isPackageName package = true)
    (hsnapshot : target.onSnapshot m = .after delay (.ok (some snapshot)))
    (hphase : snapshot.phase = .running)
    (hcontainer : container ∈ snapshot.containerNames)
    (hlogs : ∀ m', target.onLog m' container settings.logTailLines ≠ .never) :
    ∃ report, ((verify target settings container packages timeout).run m).value =
      some (.ok report) := by
  have hrequest := (firstFault_requestFaults_eq_none_iff packages timeout).mpr
    ⟨hpackages, htimeout, hnames⟩
  have htarget := (firstFault_targetFaults_eq_none_iff target.name container _).mpr
    ⟨snapshot, rfl, hphase, hcontainer⟩
  obtain ⟨report, hreport⟩ := Option.isSome_iff_exists.mp
    (isSome_value_verifyEach timeout hlogs .empty packages (batchStart m delay))
  refine ⟨report, ?_⟩
  rw [run_verify_of_no_fault settings hrequest hsnapshot htarget, hreport]
  rfl

/-- The whole course of a batch: after the one snapshot each distinct package is imported once, in
the order of first occurrence, and the log is asked for after those imports that fail, if
diagnostics are wanted.  The report has one result for each distinct package, in that order. -/
theorem verify_imports_each_distinct_package (target : Target) (settings : Settings)
    (container : String) (packages : List String) (timeout : Nat) (m : Moment) (delay : Nat)
    (snapshot : Snapshot)
    (hpackages : packages ≠ []) (htimeout : 0 < timeout)
    (hnames : ∀ package ∈ packages, isPackageName package = true)
    (hsnapshot : target.onSnapshot m = .after delay (.ok (some snapshot)))
    (hphase : snapshot.phase = .running)
    (hcontainer : container ∈ snapshot.containerNames)
    (hlogs : ∀ m', target.onLog m' container settings.logTailLines ≠ .never) :
    let t := (verify target settings container packages timeout).run m
    ∃ (report : PackageReport) (starts : List (String × Moment)),
      t.value = some (.ok report) ∧
      starts.map (·.1) = packages.eraseDups ∧
      t.asked m = (m, .snapshot) ::
        starts.flatMap (fun start =>
          (start.2, .execute container [settings.runtime, "-c", "import " ++ start.1]) ::
            if settings.collectDiagnostics ∧
                ¬ Imported target settings container timeout start.1 start.2 then
              [(importEnd target settings container timeout start.1 start.2,
                .log container settings.logTailLines)]
            else []) ∧
      report.names = packages.eraseDups ∧
      report.values.map (·.package) = packages.eraseDups := by
  intro t
  obtain ⟨report, hreport⟩ := exists_value_verify hpackages htimeout hnames hsnapshot hphase
    hcontainer hlogs
  obtain ⟨runs, hruns, hasked, hentries, -⟩ := exists_runs_of_verify hreport
  refine ⟨report, runs.map fun run => (run.2.package, run.1), hreport, ?_, ?_, ?_, ?_⟩
  · rw [List.map_map, ← hruns]
    rfl
  · rw [List.flatMap_map]
    exact hasked
  · rw [Ledger.names, hentries, ← hruns, List.map_map]
    rfl
  · rw [Ledger.values, hentries, ← hruns, List.map_map, List.map_map]
    rfl

/-- A target in which one package is imported right at the end of the time, one cannot be imported,
others hang, and the log cannot be read. -/
def sampleTarget : Target where
  name := "nb-0"
  onSnapshot _ :=
    .after 3 (.ok (some { name := "nb-0", phase := .running, containers := [{ name := "nb" }] }))
  onExecute _ _ argv :=
    if argv = ["python", "-c", "import os"] then .after 60 (.ok "done")
    else if argv = ["python", "-c", "import numpy"] then
      .after 7 (.error (.execution "nb" "exit code 1"))
    else .never
  onLog _ _ _ := .after 2 (.error (.api "gone"))

theorem verify_imports_repeated_packages_once :
    ∃ report : PackageReport,
      ((verify sampleTarget {} "nb" ["os", "torch", "os", "numpy"] 60).run ⟨0, []⟩).value =
          some (.ok report) ∧
        report.names = ["os", "torch", "numpy"] := by
  obtain ⟨report, _, hvalue, -, -, hnames, -⟩ := verify_imports_each_distinct_package
    sampleTarget {} "nb" ["os", "torch", "os", "numpy"] 60 ⟨0, []⟩ 3
    { name := "nb-0", phase := .running, containers := [{ name := "nb" }] }
    (by decide) (by decide) (by decide) rfl rfl (by decide) (fun _ h => by cases h)
  exact ⟨report, hvalue, hnames⟩

theorem importRequest_injective (settings : Settings) (container : String) :
    Function.Injective (importRequest settings container) := by
  intro package other h
  simp only [importRequest, Request.execute.injEq, List.cons.injEq, true_and, and_true,
    String.append_right_inj] at h
  exact h

theorem mem_importAsked_importRequest_iff (package other : String) (m m' : Moment) :
    (m', importRequest settings container package) ∈
        importAsked target settings container timeout other m ↔
      package = other ∧ m' = m := by
  rw [importAsked, List.mem_cons, Prod.mk.injEq, (importRequest_injective settings
    container).eq_iff]
  constructor
  · rintro (⟨rfl, rfl⟩ | hlog)
    · exact ⟨rfl, rfl⟩
    · split at hlog
      · cases List.mem_singleton.mp hlog
      · cases hlog
  · rintro ⟨rfl, rfl⟩
    exact .inl ⟨rfl, rfl⟩

/-- Each result of a report tells the truth about the replies to the one import of its package. -/
theorem verify_results_tell (target : Target) (settings : Settings) (container : String)
    (packages : List String) (timeout : Nat) (m : Moment) (report : PackageReport)
    (h : ((verify target settings container packages timeout).run m).value =
      some (.ok report)) :
    ∀ entry ∈ report.entries, ∃ start,
      (∀ m', (m', importRequest settings container entry.1) ∈
          ((verify target settings container packages timeout).run m).asked m ↔
        m' = start) ∧
      Tells target settings container timeout entry.1 start entry.2 := by
  obtain ⟨runs, hruns, hasked, hentries, htells⟩ := exists_runs_of_verify h
  intro entry hentry
  rw [hentries] at hentry
  obtain ⟨run, hrun, rfl⟩ := List.mem_map.mp hentry
  refine ⟨run.1, fun m' => ?_, htells run hrun⟩
  -- The runs are of distinct packages, so no other run makes this request.
  have hnodup : (runs.map fun run => run.2.package).Nodup := by
    rw [hruns]
    exact Ledger.nodup_eraseDups packages
  rw [hasked, List.mem_cons, List.mem_flatMap]
  constructor
  · rintro (hsnapshot | ⟨other, hother, hmem⟩)
    · cases hsnapshot
    · obtain ⟨hpackage, rfl⟩ := (mem_importAsked_importRequest_iff _ _ _ _).mp hmem
      rw [List.inj_on_of_nodup_map hnodup hrun hother hpackage]
  · rintro rfl
    exact .inr ⟨run, hrun, (mem_importAsked_importRequest_iff _ _ _ _).mpr ⟨rfl, rfl⟩⟩

theorem verify_result_tells_of_failed_import :
    let report : PackageReport :=
      ⟨[("numpy", failedResult {} "numpy" (Binary64.ofMillis 7)
        (.execution "nb" "exit code 1") (some logPlaceholder))]⟩
    ((verify sampleTarget {} "nb" ["numpy"] 60).run ⟨0, []⟩).value = some (.ok report) ∧
      ∀ entry ∈ report.entries, ∃ start,
        Tells sampleTarget {} "nb" 60 entry.1 start entry.2 := by
  intro report
  refine ⟨rfl, fun entry hentry => ?_⟩
  obtain ⟨start, -, htells⟩ :=
    verify_results_tell sampleTarget {} "nb" ["numpy"] 60 ⟨0, []⟩ report rfl entry hentry
  exact ⟨start, htells⟩

end NotebookCheck.Packages

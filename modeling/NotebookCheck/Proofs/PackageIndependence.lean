import NotebookCheck.Proofs.PackageBatch

namespace NotebookCheck

/-- What a target answers to a command or to the request of a log, and how long it takes, depends
neither on when it is asked nor on what it was asked before. -/
structure Target.IsTimeless (target : Target) : Prop where
  onExecute : ∀ m m' container argv,
    target.onExecute m container argv = target.onExecute m' container argv
  onLog : ∀ m m' container lines, target.onLog m container lines = target.onLog m' container lines

/-- Whenever the target is asked how it stands, commands can be run in the container. -/
def Target.IsUsable (target : Target) (container : String) : Prop :=
  ∀ m, ∃ delay snapshot, target.onSnapshot m = .after delay (.ok (some snapshot)) ∧
    snapshot.phase = .running ∧ container ∈ snapshot.containerNames

namespace Packages

section

variable {target : Target} {settings : Settings} {container : String} {timeout : ℕ}

theorem importReply_of_timeless (h : target.IsTimeless) (settings : Settings)
    (container package : String) (m m' : Moment) :
    importReply target settings container package m =
      importReply target settings container package m' :=
  h.onExecute m m' container _

theorem imported_iff_of_timeless (h : target.IsTimeless) (package : String) (m m' : Moment) :
    Imported target settings container timeout package m ↔
      Imported target settings container timeout package m' := by
  rw [Imported, importReply_of_timeless h settings container package m m']
  rfl

theorem Tells.logs_eq {package : String} {m m' : Moment} {r r' : PackageResult}
    (hr : Tells target settings container timeout package m r)
    (hr' : Tells target settings container timeout package m' r') (h : target.IsTimeless)
    (hfailed : r.success = false) (hfailed' : r'.success = false) : r.logs = r'.logs := by
  have hlogs := hr.logs_of_failure hfailed
  have hlogs' := hr'.logs_of_failure hfailed'
  by_cases hwanted : settings.collectDiagnostics = true
  · rw [if_pos hwanted] at hlogs hlogs'
    obtain ⟨delay, answer, hreply, hanswer⟩ := hlogs
    obtain ⟨delay', answer', hreply', hanswer'⟩ := hlogs'
    rw [h.onLog _ (importEnd target settings container timeout package m') _ _, hreply'] at hreply
    cases hreply
    rw [hanswer, hanswer']
  · rw [if_neg hwanted] at hlogs hlogs'
    rw [hlogs, hlogs']

theorem Tells.stderr_eq {package : String} {m m' : Moment} {r r' : PackageResult}
    (hr : Tells target settings container timeout package m r)
    (hr' : Tells target settings container timeout package m' r') (h : target.IsTimeless)
    (hfailed : r.success = false) (hfailed' : r'.success = false) : r.stderr = r'.stderr := by
  have hreply := importReply_of_timeless h settings container package m m'
  obtain ⟨-, -, htold⟩ := hr.of_failure hfailed
  obtain ⟨-, -, htold'⟩ := hr'.of_failure hfailed'
  rw [hreply] at htold
  rcases htold with ⟨delay, fault, hanswer, hdelay, hstderr⟩ | ⟨hlate, hstderr⟩
  · rcases htold' with ⟨delay', fault', hanswer', -, hstderr'⟩ | ⟨hlate', -⟩
    · cases hanswer.symm.trans hanswer'
      rw [hstderr, hstderr']
    · exact absurd hdelay (Nat.not_le_of_lt (hlate' delay _ hanswer))
  · rcases htold' with ⟨delay', fault', hanswer', hdelay', -⟩ | ⟨-, hstderr'⟩
    · exact absurd hdelay' (Nat.not_le_of_lt (hlate delay' _ hanswer'))
    · rw [hstderr, hstderr']

/-- The replies of a timeless target to the import of a package allow one result only. -/
theorem Tells.unique {package : String} {m m' : Moment} {r r' : PackageResult}
    (hr : Tells target settings container timeout package m r)
    (hr' : Tells target settings container timeout package m' r') (h : target.IsTimeless) :
    r = r' := by
  have hreply := importReply_of_timeless h settings container package m m'
  have hseconds : r.seconds = r'.seconds := by rw [hr.seconds_eq, hr'.seconds_eq, hreply]
  have hpackage : r.package = r'.package := hr.package_eq.trans hr'.package_eq.symm
  have hcommand : r.command = r'.command := hr.command_eq.trans hr'.command_eq.symm
  have hsuccess : r.success = r'.success := by
    rw [Bool.eq_iff_iff, hr.success_iff, hr'.success_iff, imported_iff_of_timeless h package m m']
  have houtput : r.errorMessage = r'.errorMessage ∧ r.logs = r'.logs ∧ r.stdout = r'.stdout ∧
      r.stderr = r'.stderr := by
    cases hcase : r.success with
    | true =>
        obtain ⟨herror, hlogs, hstderr, delay, hstdout⟩ := hr.of_success hcase
        obtain ⟨herror', hlogs', hstderr', delay', hstdout'⟩ :=
          hr'.of_success (hsuccess.symm.trans hcase)
        rw [hreply, hstdout', Reply.after.injEq, Except.ok.injEq] at hstdout
        exact ⟨herror.trans herror'.symm, hlogs.trans hlogs'.symm, hstdout.2.symm,
          hstderr.trans hstderr'.symm⟩
    | false =>
        have hcase' := hsuccess.symm.trans hcase
        have hstderr := hr.stderr_eq hr' h hcase hcase'
        obtain ⟨herror, hstdout, -⟩ := hr.of_failure hcase
        obtain ⟨herror', hstdout', -⟩ := hr'.of_failure hcase'
        exact ⟨by rw [herror, herror', hstderr], hr.logs_eq hr' h hcase hcase',
          hstdout.trans hstdout'.symm, hstderr⟩
  cases r
  cases r'
  simp only [PackageResult.mk.injEq]
  exact ⟨hpackage, hsuccess, houtput.1, hcommand, hseconds, houtput.2.1, houtput.2.2.1,
    houtput.2.2.2⟩

/-- Work on a list of packages that starts at a moment gives a report. -/
def Reports (target : Target) (settings : Settings) (container : String) (timeout : ℕ)
    (packages : List String) (m : Moment) (report : PackageReport) : Prop :=
  ((verify target settings container packages timeout).run m).value = some (.ok report)

theorem exists_result (h : target.IsTimeless) (settings : Settings) (container : String)
    (timeout : ℕ) (package : String) :
    ∃ result, ∀ m r, Tells target settings container timeout package m r → r = result := by
  by_cases htold : ∃ m r, Tells target settings container timeout package m r
  · obtain ⟨m, result, hresult⟩ := htold
    exact ⟨result, fun m' r hr => hr.unique hresult h⟩
  · exact ⟨default, fun m r hr => absurd ⟨m, r, hr⟩ htold⟩

theorem exists_results (h : target.IsTimeless) (settings : Settings) (container : String)
    (timeout : ℕ) :
    ∃ f : String → PackageResult, ∀ packages m report,
      Reports target settings container timeout packages m report →
        report = Ledger.tabulate f packages := by
  choose f hf using exists_result h settings container timeout
  refine ⟨f, fun packages m report hreport => ?_⟩
  obtain ⟨runs, hruns, -, hentries, htells⟩ := exists_runs_of_verify hreport
  have hlisted : report.entries = packages.eraseDups.map fun package => (package, f package) := by
    rw [hentries, ← hruns, List.map_map]
    refine List.map_congr_left fun run hrun => ?_
    exact Prod.ext rfl (hf _ _ _ (htells run hrun))
  exact congrArg Ledger.mk hlisted

theorem exists_report (husable : target.IsUsable container)
    (hlogs : ∀ m, target.onLog m container settings.logTailLines ≠ .never)
    {packages : List String} (hrequest : checkRequest packages timeout = .ok ()) (m : Moment) :
    ∃ report, Reports target settings container timeout packages m report := by
  obtain ⟨hpackages, htimeout, hnames⟩ := (checkRequest_eq_ok_iff packages timeout).mp hrequest
  obtain ⟨delay, snapshot, hsnapshot, hphase, hcontainer⟩ := husable m
  exact exists_value_verify hpackages htimeout hnames hsnapshot hphase hcontainer hlogs

end

/-- Packages do not influence each other in a target that is timeless.  If commands can be run in
it and its log can be had, every valid request gives a report.  Any two reports, whatever else is on
their lists and whenever they are made, have the same result for a package that is on both lists.
So the reports on a list without repetitions and on the same list in another order have the same
entries, each in the order of its list; the report on two lists in a row joins the reports on both;
and the report on a list that is verified again is the same. -/
theorem packages_do_not_influence_each_other (target : Target) (settings : Settings)
    (container : String) (timeout : ℕ) (htimeless : target.IsTimeless)
    (husable : target.IsUsable container) :
    let Reports := Reports target settings container timeout
    ((∀ m, target.onLog m container settings.logTailLines ≠ .never) →
      ∀ packages m, checkRequest packages timeout = .ok () →
        ∃ report, Reports packages m report) ∧
    (∀ packages packages' m m' r r', Reports packages m r → Reports packages' m' r' →
      ∀ package, package ∈ packages → package ∈ packages' →
        ∃ result, r.get? package = some result ∧ r'.get? package = some result) ∧
    (∀ packages packages' m m' r r', Reports packages m r → Reports packages' m' r' →
      packages.Nodup → packages.Perm packages' →
        r.entries.Perm r'.entries ∧ r.names = packages ∧ r'.names = packages') ∧
    (∀ first second m₁ m₂ m r₁ r₂ r, Reports first m₁ r₁ → Reports second m₂ r₂ →
      Reports (first ++ second) m r → r = r₁.join r₂) ∧
    ∀ packages m m' r r', Reports packages m r → Reports packages m' r' → r = r' := by
  intro Reports
  obtain ⟨f, hf⟩ := exists_results htimeless settings container timeout
  refine ⟨fun hlogs packages m hrequest => exists_report husable hlogs hrequest m,
    ?_, ?_, ?_, ?_⟩
  · intro packages packages' m m' r r' hr hr' package hpackage hpackage'
    rw [hf _ _ _ hr, hf _ _ _ hr']
    exact ⟨f package, Ledger.get?_tabulate f hpackage, Ledger.get?_tabulate f hpackage'⟩
  · intro packages packages' m m' r r' hr hr' hnodup hperm
    rw [hf _ _ _ hr, hf _ _ _ hr', Ledger.names_tabulate, Ledger.names_tabulate,
      Ledger.tabulate, Ledger.tabulate, Ledger.eraseDups_of_nodup hnodup,
      Ledger.eraseDups_of_nodup (hperm.nodup_iff.mp hnodup)]
    exact ⟨hperm.map _, rfl, rfl⟩
  · intro first second m₁ m₂ m r₁ r₂ r hr₁ hr₂ hr
    rw [hf _ _ _ hr₁, hf _ _ _ hr₂, hf _ _ _ hr, Ledger.join_tabulate]
  · intro packages m m' r r' hr hr'
    rw [hf _ _ _ hr, hf _ _ _ hr']

theorem sampleTarget_isTimeless : sampleTarget.IsTimeless where
  onExecute _ _ _ _ := rfl
  onLog _ _ _ _ := rfl

theorem sampleTarget_isUsable : sampleTarget.IsUsable "nb" :=
  fun _ => ⟨3, _, rfl, rfl, List.mem_singleton_self _⟩

/-- A package that cannot be imported has the same result after one that hangs as by itself, and the
report on both lists in a row joins their reports. -/
theorem numpy_does_not_depend_on_torch :
    sampleTarget.IsTimeless ∧ sampleTarget.IsUsable "nb" ∧
      ∃ r r' joint, Reports sampleTarget {} "nb" 60 ["torch", "numpy", "torch"] ⟨0, []⟩ r ∧
        Reports sampleTarget {} "nb" 60 ["numpy", "os"] ⟨500, [⟨3, .snapshot⟩]⟩ r' ∧
        Reports sampleTarget {} "nb" 60 ["torch", "numpy", "torch", "numpy", "os"] ⟨7, []⟩ joint ∧
        r.get? "numpy" = r'.get? "numpy" ∧ joint = r.join r' := by
  obtain ⟨hreports, hsame, -, hjoin, -⟩ := packages_do_not_influence_each_other sampleTarget {}
    "nb" 60 sampleTarget_isTimeless sampleTarget_isUsable
  have hlogs : ∀ m, sampleTarget.onLog m "nb" 100 ≠ .never := by
    intro m h
    cases h
  obtain ⟨r, hr⟩ := hreports hlogs ["torch", "numpy", "torch"] ⟨0, []⟩ (by decide +kernel)
  obtain ⟨r', hr'⟩ := hreports hlogs ["numpy", "os"] ⟨500, [⟨3, .snapshot⟩]⟩ (by decide +kernel)
  obtain ⟨joint, hjoint⟩ := hreports hlogs (["torch", "numpy", "torch"] ++ ["numpy", "os"])
    ⟨7, []⟩ (by decide +kernel)
  obtain ⟨result, hresult, hresult'⟩ := hsame _ _ _ _ r r' hr hr' "numpy" (by simp) (by simp)
  exact ⟨sampleTarget_isTimeless, sampleTarget_isUsable, r, r', joint, hr, hr', hjoint,
    hresult.trans hresult'.symm, hjoin _ _ _ _ _ r r' joint hr hr' hjoint⟩

end Packages

end NotebookCheck

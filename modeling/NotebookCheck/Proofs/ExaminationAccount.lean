import NotebookCheck.Proofs.Account
import NotebookCheck.Proofs.PackageBatch
import NotebookCheck.Proofs.ReadinessCourse
import NotebookCheck.Proofs.SnippetLimit

namespace NotebookCheck

namespace Readiness

section

variable (target : Target) (settings : Settings)

theorem entries_snapshot (m : Moment) :
    (target.snapshot.run m).entries = [.call ⟨m.now, .snapshot⟩] := by
  rw [Target.snapshot, Target.run_await_eq]

theorem balancedProbe_snapshot {p : Poller}
    (hp : p.operation = "pod existence" ∨ p.operation = "pod ready") {α : Type}
    (f : Option Snapshot → Tick α) :
    p.BalancedProbe fun _ => target.snapshot >>= fun found => pure (f found) := by
  intro _ m
  rw [Attempt.run_bind_pure, entries_snapshot]
  rcases hp with hp | hp <;> constructor <;>
    simp [hp, Entry.isExecute, Entry.isSnapshot, Entry.isSample]

theorem balances_waitForExistence {p : Poller} (hp : p.operation = "pod existence") (m : Moment) :
    (Account.ofPoll "pod existence").Balances ((waitForExistence target p).run m).entries :=
  hp ▸ Poller.balances_runEach (balancedProbe_snapshot target (.inl hp) _) m

theorem balances_waitForCondition {p : Poller} (hp : p.operation = "pod ready")
    (kind status : String) (m : Moment) :
    (Account.ofPoll "pod ready").Balances
      ((waitForCondition target kind status p).run m).entries :=
  hp ▸ Poller.balances_runEach (balancedProbe_snapshot target (.inr hp) _) m

theorem balances_look (m : Moment) : Account.ofLook.Balances [.call ⟨m.now, .snapshot⟩] := by
  constructor <;> simp [Account.ofLook, Entry.isExecute, Entry.isSnapshot, Entry.isSample]

theorem balances_describeFailure (cause : Fault) (m : Moment) :
    Account.ofLook.Balances (describeFailure target settings cause m).entries := by
  refine Work.balances_bind ((entries_snapshot target m).symm ▸ balances_look m) fun answer => ?_
  split
  · exact Work.records_bind (Work.uncounted_note _ _ _) fun _ => Work.records_pure _
  · exact Work.records_pure _
  · refine Work.records_bind (Diagnostics.records_failureDetails target _ _ (fun _ _ => trivial)
      fun _ _ => trivial) fun _ => Work.records_pure _

def looksAtEnd : Except Fault Snapshot → ℕ
  | .ok _ => 0
  | .error _ => 1

theorem balances_conclude (result : Except Fault Snapshot) (m : Moment) :
    ({ looks := looksAtEnd result } : Account).Balances
      (conclude target settings result m).entries := by
  cases result with
  | ok s => exact Account.balances_event _
  | error cause =>
      refine Work.balances_bind (balances_describeFailure target settings cause m) fun failure => ?_
      exact Work.records_bind (Work.uncounted_note _ _ _) fun _ => Work.records_pure _

def looksOf : Except Fault Snapshot → ℕ
  | .error (.notReady _) => 1
  | _ => 0

variable {target settings} in
theorem looksOf_of_conclude {result ended : Except Fault Snapshot} {m : Moment}
    (h : (conclude target settings result m).value = some ended) :
    looksAtEnd result = looksOf ended := by
  cases result with
  | ok s =>
      cases h
      rfl
  | error cause =>
      rw [value_conclude_error] at h
      obtain ⟨failure, -, rfl⟩ := Option.map_eq_some_iff.mp h
      rfl

/-- The operations that both stages of a wait poll: the second follows only if the target is found
to exist. -/
def stagesPolled (existence : Poller) (m : Moment) : List String :=
  match ((waitForExistence target existence).run m).value with
  | some (.ok _) => ["pod existence", "pod ready"]
  | _ => ["pod existence"]

theorem balances_waitWith {existence ready : Poller}
    (hexistence : existence.operation = "pod existence") (hready : ready.operation = "pod ready")
    (m : Moment) :
    ({ polled := stagesPolled target existence m } : Account).Balances
      ((waitWith target existence ready).run m).entries := by
  have hfirst := balances_waitForExistence target hexistence m
  rw [waitWith, stagesPolled]
  cases hvalue : ((waitForExistence target existence).run m).value with
  | none =>
      rw [Attempt.run_bind_of_none _ _ _ hvalue]
      exact hfirst
  | some result =>
      cases result with
      | error fault =>
          rw [Attempt.run_bind_of_error _ _ _ hvalue]
          exact hfirst
      | ok s =>
          rw [Attempt.run_bind_of_ok _ _ _ hvalue, Trace.entries_followedBy]
          exact hfirst.append (balances_waitForCondition target hready _ _ _)

def waitPolled (m : Moment) : List String :=
  match readinessPoller settings "pod existence" with
  | .ok existence => stagesPolled target existence m
  | .error _ => []

theorem readinessPoller_cases :
    (∀ operation, ∃ message,
      readinessPoller settings operation = .error (.validation message)) ∨
    ∀ operation, ∃ p, readinessPoller settings operation = .ok p ∧ p.operation = operation := by
  rcases Poller.ofBounds_cases (Settings.millis settings.pollInterval)
    (Settings.millis settings.readinessTimeout) with hrefused | hmade
  · refine .inl fun operation => ?_
    obtain ⟨message, h⟩ := hrefused operation
    exact ⟨message, by rw [readinessPoller, h, Except.map]⟩
  · refine .inr fun operation => ?_
    obtain ⟨p, h, hp⟩ := hmade operation
    exact ⟨p.ignoring .api, by rw [readinessPoller, h, Except.map],
      (p.operation_ignoring .api).trans hp⟩

theorem balances_waitUntilReady (m : Moment) :
    ∃ looks, ({ polled := waitPolled target settings m, looks } : Account).Balances
        ((waitUntilReady target settings).run m).entries ∧
      ∀ ended, ((waitUntilReady target settings).run m).value = some ended →
        looks = looksOf ended := by
  rw [waitUntilReady, waitPolled]
  rcases readinessPoller_cases settings with hrefused | hmade
  · obtain ⟨message, h⟩ := hrefused "pod existence"
    rw [h]
    refine ⟨0, Account.balances_nil, ?_⟩
    rintro _ ⟨⟩
    rfl
  · obtain ⟨existence, hexistence, hoperation⟩ := hmade "pod existence"
    obtain ⟨ready, hready, hoperation'⟩ := hmade "pod ready"
    have hpolls := balances_waitWith target hoperation hoperation' m
    rw [hexistence, hready, Attempt.run_ofExcept_bind_ok, Attempt.run_ofExcept_bind_ok]
    change ∃ looks, ({ polled := stagesPolled target existence m, looks } : Account).Balances
      (((waitWith target existence ready).outcome >>= conclude target settings) m).entries ∧
        ∀ ended, (((waitWith target existence ready).outcome >>=
          conclude target settings) m).value = some ended → looks = looksOf ended
    cases hvalue : ((waitWith target existence ready).outcome m).value with
    | none =>
        rw [Work.bind_of_none _ _ _ hvalue]
        refine ⟨0, hpolls, ?_⟩
        rintro _ ⟨⟩
    | some result =>
        rw [Work.bind_of_value _ _ _ hvalue]
        refine ⟨looksAtEnd result, ?_, fun ended hended => looksOf_of_conclude hended⟩
        rw [← Account.add_looks]
        exact hpolls.append (balances_conclude target settings result _)

end

section

variable (target : Target) (container : String) (settings : Settings)

/-- The poller of a wait for a connection before it is told what to go on after, if its bounds make
one. -/
def connectionPoller : Except Fault Poller :=
  Poller.ofBounds "exec connection" (Settings.millis settings.connectionPollInterval)
    (Settings.millis settings.connectionTimeout)

theorem balancedProbe_execute {p : Poller} (hp : p.operation = "exec connection") :
    p.BalancedProbe fun _ =>
      target.execute container connectionProbe.argv >>= fun _ => pure (.satisfied ()) := by
  intro _ m
  rw [Attempt.run_bind_pure, Target.execute, Target.run_await_eq]
  constructor <;> simp [hp, Entry.isExecute, Entry.isSnapshot, Entry.isSample]

theorem balances_waitForConnection (m : Moment) :
    ({ polled := Poller.polledWith (connectionPoller settings) } : Account).Balances
      ((waitForConnection target container settings).run m).entries := by
  rw [waitForConnection, connectionPoller]
  rcases Poller.ofBounds_cases (Settings.millis settings.connectionPollInterval)
    (Settings.millis settings.connectionTimeout) with hrefused | hmade
  · obtain ⟨message, h⟩ := hrefused "exec connection"
    rw [h]
    exact Account.balances_nil
  · obtain ⟨p, h, hp⟩ := hmade "exec connection"
    rw [h, Attempt.run_ofExcept_bind_ok, Poller.polledWith]
    have hoperation : (((p.ignoring .execution).ignoring .api).ignoring .connection).operation =
        "exec connection" := by
      simpa using hp
    refine Attempt.balances_bind ?_ fun _ => Attempt.uncounted_note _ _ _
    rw [hp, ← hoperation]
    exact Poller.balances_runEach (balancedProbe_execute target container hoperation) m

end

end Readiness

namespace Snippet

section

variable (target : Target) (settings : Settings) (container : String)

/-- The poller of a snippet before it is told what to go on after, if its bounds make one. -/
def snippetPoller (timeout : ℕ) : Except Fault Poller :=
  Poller.ofBounds "snippet execution" (Settings.millis settings.snippetRetryInterval) timeout

theorem balancedProbe_tryOnce {p : Poller} (hp : p.operation = "snippet execution")
    (argv : List String) (timeout : ℕ) :
    p.BalancedProbe fun _ => tryOnce target container argv timeout := by
  intro _ m
  rw [run_tryOnce]
  constructor <;> simp [hp, Entry.isExecute, Entry.isSnapshot, Entry.isSample]

theorem balances_run (code : String) (timeout : ℕ) (m : Moment) :
    ({ polled := Poller.polledWith (snippetPoller settings timeout) } : Account).Balances
      ((run target settings container code timeout).run m).entries := by
  rw [run, snippetPoller]
  rcases Poller.ofBounds_cases (Settings.millis settings.snippetRetryInterval) timeout with
    hrefused | hmade
  · obtain ⟨message, h⟩ := hrefused "snippet execution"
    rw [h]
    exact Account.balances_nil
  · obtain ⟨p, h, hp⟩ := hmade "snippet execution"
    rw [h, Attempt.run_ofExcept_bind_ok, Poller.polledWith]
    have hoperation : ((p.ignoring .api).ignoring .connection).operation =
        "snippet execution" := by
      simpa using hp
    dsimp only
    rw [Attempt.run_lift_bind, Work.note_bind, Trace.entries_followedBy]
    refine (Account.balances_event _).empty_append (Attempt.balances_bind ?_ fun ended => ?_)
    · rw [Attempt.run_lift, hp, ← hoperation]
      exact Poller.balances_runEach (balancedProbe_tryOnce target container hoperation _ _) m
    · exact Attempt.records_bind (Attempt.records_lift (Work.records_record trivial))
        fun _ => Attempt.records_pure _

theorem balances_runCheck (check : SnippetCheck) (m : Moment) :
    ({ polled := Poller.polledWith (snippetPoller settings check.timeout) } : Account).Balances
      ((runCheck target settings container check).run m).entries := by
  refine Attempt.balances_bind (balances_run target settings container _ _ m) fun outcome => ?_
  split
  · exact Attempt.records_bind (Attempt.uncounted_note _ _ _) fun _ => Attempt.records_pure _
  · exact Attempt.records_bind (Attempt.uncounted_note _ _ _) fun _ => Attempt.records_pure _

/-- The operations that checks poll which are run one after the other, until one cannot be run or
the deadline has passed at the end of one. -/
def checksPolled (deadline : Deadline) : List SnippetCheck → Moment → List String
  | [], _ => []
  | check :: rest, m =>
      let t := (runCheck target settings container check).outcome m
      let u := deadline.checkpoint ("snippet " ++ check.name) (m.after t)
      Poller.polledWith (snippetPoller settings check.timeout) ++
        match t.value, u.value with
        | some (.ok _), some (.ok (), deadline) =>
            checksPolled deadline rest ((m.after t).after u)
        | _, _ => []

theorem balances_runEach (checks : List SnippetCheck) (deadline : Deadline)
    (report : SnippetReport) (m : Moment) :
    ({ polled := checksPolled target settings container deadline checks m } : Account).Balances
      (runEach target settings container deadline report checks m).entries := by
  induction checks generalizing deadline report m with
  | nil => exact Account.balances_nil
  | cons check rest ih =>
      have hcheck := balances_runCheck target settings container check m
      rw [runEach, checksPolled, ← Account.add_polled]
      cases hvalue : ((runCheck target settings container check).outcome m).value with
      | none =>
          rw [Work.bind_of_none _ _ _ hvalue]
          exact (Account.add_empty _).symm ▸ hcheck
      | some result =>
          rw [Work.bind_of_value _ _ _ hvalue]
          refine hcheck.append ?_
          cases result with
          | error fault => exact Account.balances_nil
          | ok outcome =>
              dsimp only
              have hpoint := deadline.records_checkpoint (P := Entry.IsUncounted)
                ("snippet " ++ check.name) (fun _ => trivial)
                (m.after ((runCheck target settings container check).outcome m))
              cases hchecked : (deadline.checkpoint ("snippet " ++ check.name)
                  (m.after ((runCheck target settings container check).outcome m))).value with
              | none =>
                  rw [Work.bind_of_none _ _ _ hchecked]
                  exact Account.balances_of_uncounted hpoint
              | some checked =>
                  rw [Work.bind_of_value _ _ _ hchecked, Trace.entries_followedBy]
                  refine (Account.balances_of_uncounted hpoint).empty_append ?_
                  obtain ⟨passed, next⟩ := checked
                  cases passed with
                  | error fault => exact Account.balances_nil
                  | ok _ => exact ih next _ _

theorem balances_runSuite (checks : List SnippetCheck) (deadline : Deadline) (m : Moment) :
    ({ polled := checksPolled target settings container deadline checks m } : Account).Balances
      (runSuite target settings container checks deadline m).entries := by
  rw [runSuite, Work.note_bind, Trace.entries_followedBy]
  refine (Account.balances_event _).empty_append (Work.balances_bind
    (balances_runEach target settings container checks deadline .empty m) fun ended => ?_)
  dsimp only
  split
  · exact Work.records_pure _
  · exact Work.records_bind (Work.uncounted_note _ _ _) fun _ => Work.records_pure _

end

end Snippet

namespace Packages

section

variable (target : Target) (settings : Settings) (container : String)

theorem uncounted_diagnose : (diagnose target settings container).Records Entry.IsUncounted := by
  intro m entry hentry
  unfold diagnose at hentry
  split at hentry
  · rw [Work.map_apply] at hentry
    cases hreply : target.onLog m container settings.logTailLines with
    | never =>
        rw [collectLogs_of_never hreply] at hentry
        rw [List.mem_singleton.mp hentry]
        trivial
    | after delay answer =>
        rw [collectLogs_of_after hreply] at hentry
        cases answer with
        | ok logs =>
            rw [List.mem_singleton.mp hentry]
            trivial
        | error fault =>
            simp only [logNote, List.mem_cons, List.not_mem_nil, or_false] at hentry
            rcases hentry with rfl | rfl | rfl <;> trivial
  · cases hentry

/-- What an import puts on record up to the count of its success is balanced by the import. -/
theorem balances_importEntries (timeout : ℕ) (package : String) (m : Moment) (success : Bool) :
    (Account.ofImport success).Balances
      (importEntries target settings container timeout package m ++
        [.count (.packageImports success)]) := by
  cases success <;> constructor <;>
    simp [importEntries, importRequest, Account.ofImport, List.countP_cons, Entry.isExecute,
      Entry.isSnapshot, Entry.isSample]

theorem balances_verifyOne (package : String) (timeout : ℕ) (m : Moment) :
    ∃ success, (Account.ofImport success).Balances
        (verifyOne target settings container package timeout m).entries ∧
      ∀ result, (verifyOne target settings container package timeout m).value = some result →
        result.success = success := by
  by_cases himported : Imported target settings container timeout package m
  · obtain ⟨stdout, hanswer⟩ :=
      exists_answer_of_imported target settings container timeout himported
    have himport := balances_importEntries target settings container timeout package m true
    rw [verifyOne_of_answer_ok hanswer]
    refine ⟨true, ?_, ?_⟩
    · exact List.append_assoc _ [_] [_] ▸ himport.append_uncounted (by simp [Entry.IsUncounted])
    · rintro _ ⟨⟩
      rfl
  · obtain ⟨fault, hfault⟩ :=
      exists_fault_of_not_imported target settings container timeout himported
    have himport := balances_importEntries target settings container timeout package m false
    rw [verifyOne_of_fault hfault]
    refine ⟨false, ?_, ?_⟩
    · refine Account.Balances.append_uncounted ?_ (uncounted_diagnose target settings container _)
      exact List.append_assoc _ [_] [_] ▸ himport.append_uncounted (by simp [Entry.IsUncounted])
    · intro result hresult
      obtain ⟨logs, -, rfl⟩ := Option.map_eq_some_iff.mp hresult
      rfl

def resultCount (report : PackageReport) (success : Bool) : ℕ :=
  report.entries.countP fun entry => entry.2.success == success

theorem resultCount_true (report : PackageReport) :
    resultCount report true = (PackageReport.successful report).length := by
  simp [resultCount, PackageReport.successful, Ledger.namesWhere, List.countP_eq_length_filter]

theorem resultCount_false (report : PackageReport) :
    resultCount report false = (PackageReport.failed report).length := by
  simp [resultCount, PackageReport.failed, Ledger.namesWhere, List.countP_eq_length_filter]

theorem resultCount_add {report : PackageReport} {result : PackageResult}
    (h : result.package ∉ report.names) (success : Bool) :
    resultCount (report.add result) success =
      resultCount report success + (Account.ofImport result.success).imports success := by
  rw [resultCount, PackageReport.add, Ledger.entries_insert_of_not_mem result h,
    List.countP_append, resultCount]
  cases success <;> cases hresult : result.success <;> simp [Account.ofImport, hresult]

theorem balances_verifyEach (timeout : ℕ) (packages : List String) (report : PackageReport)
    (m : Moment) :
    ∃ imports, ({ imports } : Account).Balances
        (verifyEach target settings container timeout report packages m).entries ∧
      ∀ ended, (verifyEach target settings container timeout report packages m).value =
          some ended →
        ∀ success, resultCount ended success = resultCount report success + imports success := by
  induction packages generalizing report m with
  | nil =>
      refine ⟨fun _ => 0, Account.balances_nil, ?_⟩
      rintro _ ⟨⟩ success
      rfl
  | cons package rest ih =>
      by_cases hknown : package ∈ report.names
      · obtain ⟨imports, hbalances, hended⟩ := ih report m
        rw [verifyEach_of_known rest hknown, Work.note_bind]
        exact ⟨imports, (Account.balances_event _).empty_append hbalances, hended⟩
      · obtain ⟨success, hone, hresult⟩ :=
          balances_verifyOne target settings container package timeout m
        rw [verifyEach_of_new rest hknown]
        cases hvalue : (verifyOne target settings container package timeout m).value with
        | none =>
            rw [Work.bind_of_none _ _ _ hvalue]
            exact ⟨_, hone, nofun⟩
        | some result =>
            obtain ⟨imports, hbalances, hended⟩ := ih (report.add result)
              (m.after (verifyOne target settings container package timeout m))
            have hnew : result.package ∉ report.names :=
              (tells_of_verifyOne hvalue).package_eq.symm ▸ hknown
            rw [Work.bind_of_value _ _ _ hvalue]
            refine ⟨_, hone.append hbalances, fun ended h other => ?_⟩
            rw [hended ended h, resultCount_add hnew, hresult result hvalue]
            exact Nat.add_assoc _ _ _

def resultsOf : Except Fault PackageReport → Bool → ℕ
  | .ok report => resultCount report
  | .error _ => fun _ => 0

theorem balances_verify (packages : List String) (timeout : ℕ) (m : Moment) :
    ∃ imports,
      ({ looks := if checkRequest packages timeout = .ok () then 1 else 0, imports } :
        Account).Balances
          ((verify target settings container packages timeout).run m).entries ∧
      ∀ ended, ((verify target settings container packages timeout).run m).value = some ended →
        resultsOf ended = imports := by
  rw [checkRequest_eq_ofFault]
  cases hrequest : firstFault (requestFaults packages timeout) with
  | some fault =>
      rw [run_verify_of_requestFault settings hrequest]
      refine ⟨fun _ => 0, Account.balances_nil, ?_⟩
      rintro _ ⟨⟩
      rfl
  | none =>
      have hlook := Readiness.balances_look m
      cases hsnapshot : target.onSnapshot m with
      | never =>
          rw [run_verify_of_never settings hrequest hsnapshot]
          exact ⟨fun _ => 0, hlook, nofun⟩
      | after delay answer =>
          cases htarget : firstFault (targetFaults target.name container answer) with
          | some fault =>
              rw [run_verify_of_targetFault settings hrequest hsnapshot htarget]
              refine ⟨fun _ => 0, hlook, ?_⟩
              rintro _ ⟨⟩
              rfl
          | none =>
              rw [run_verify_of_no_fault settings hrequest hsnapshot htarget]
              obtain ⟨imports, hbatch, hended⟩ := balances_verifyEach target settings container
                timeout packages .empty (batchStart m delay)
              refine ⟨imports, ?_, ?_⟩
              · have hbegun := hlook.append
                  ((Account.balances_event (startedEvent target container packages)).empty_append
                    hbatch)
                have hsum : Account.ofLook.add { imports } =
                    { looks := if ofFault none = .ok () then 1 else 0, imports } := by
                  simp [Account.add, Account.ofLook, ofFault]
                rw [← hsum]
                refine hbegun.append_uncounted fun entry hentry => ?_
                obtain ⟨report, -, rfl⟩ := Option.map_eq_some_iff.mp (Option.mem_toList.mp hentry)
                trivial
              · intro ended h
                obtain ⟨report, hreport, rfl⟩ := Option.map_eq_some_iff.mp h
                funext success
                simpa [resultsOf, resultCount, Ledger.empty] using hended report hreport success

end

end Packages

end NotebookCheck

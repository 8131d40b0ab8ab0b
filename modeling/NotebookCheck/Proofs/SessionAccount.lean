import Mathlib.Algebra.GroupWithZero.Nat
import NotebookCheck.Proofs.ExaminationAccount

namespace NotebookCheck

inductive Step where
  | waitUntilReady (target : Target) (settings : Settings)
  | waitForConnection (target : Target) (container : String) (settings : Settings)
  | verify (target : Target) (settings : Settings) (container : String) (packages : List String)
      (timeout : ℕ)
  | snippet (target : Target) (settings : Settings) (container code : String) (timeout : ℕ)
  | suite (target : Target) (settings : Settings) (container : String)
      (checks : List SnippetCheck) (deadline : Deadline)

inductive Outcome where
  | waited (result : Except Fault Snapshot)
  | connected (result : Except Fault Unit)
  | verified (result : Except Fault PackageReport)
  | ran (result : Except Fault SnippetOutcome)
  | checked (result : Except Fault SnippetReport)

namespace Outcome

def isNotReady : Outcome → Bool
  | waited (.error (.notReady _)) => true
  | _ => false

def report? : Outcome → Option PackageReport
  | verified (.ok report) => some report
  | _ => none

end Outcome

namespace Step

def work : Step → Work Outcome
  | waitUntilReady target settings =>
      Outcome.waited <$> (Readiness.waitUntilReady target settings).outcome
  | waitForConnection target container settings =>
      Outcome.connected <$> (Readiness.waitForConnection target container settings).outcome
  | verify target settings container packages timeout =>
      Outcome.verified <$> (Packages.verify target settings container packages timeout).outcome
  | snippet target settings container code timeout =>
      Outcome.ran <$> (Snippet.run target settings container code timeout).outcome
  | suite target settings container checks deadline =>
      (fun ended => Outcome.checked ended.1) <$>
        Snippet.runSuite target settings container checks deadline

def isValidRequest : Step → Bool
  | verify _ _ _ packages timeout => Packages.checkRequest packages timeout = .ok ()
  | _ => false

def polled : Step → Moment → List String
  | waitUntilReady target settings, m => Readiness.waitPolled target settings m
  | waitForConnection _ _ settings, _ =>
      Poller.polledWith (Readiness.connectionPoller settings)
  | verify _ _ _ _ _, _ => []
  | snippet _ settings _ _ timeout, _ => Poller.polledWith (Snippet.snippetPoller settings timeout)
  | suite target settings container checks deadline, m =>
      Snippet.checksPolled target settings container deadline checks m

end Step

def session : List Step → Work (List Outcome)
  | [] => pure []
  | step :: rest => do
      let outcome ← step.work
      let outcomes ← session rest
      return outcome :: outcomes

def polledIn : List Step → Moment → List String
  | [], _ => []
  | step :: rest, m =>
      step.polled m ++
        match (step.work m).value with
        | some _ => polledIn rest (m.after (step.work m))
        | none => []

/-- The number of results in the reports of outcomes that are a success, or that are none. -/
def resultCount (outcomes : List Outcome) (success : Bool) : ℕ :=
  ((outcomes.filterMap Outcome.report?).map (Packages.resultCount · success)).sum

/-- An account is that of examinations with the given trace and outcomes. -/
structure Account.Explains {α : Type} (a : Account) (t : Trace α) (steps : List Step)
    (outcomes : α → List Outcome) : Prop where
  balances : a.Balances t.entries
  looks : ∀ ended, t.value = some ended →
    a.looks = steps.countP Step.isValidRequest + (outcomes ended).countP Outcome.isNotReady
  imports : ∀ ended, t.value = some ended → ∀ success,
    a.imports success = resultCount (outcomes ended) success

theorem Account.Explains.of_map {a : Account} {α : Type} {w : Work α} {f : α → Outcome}
    {m : Moment} {steps : List Step} (hbalances : a.Balances (w m).entries)
    (h : ∀ ended, (w m).value = some ended →
      a.looks = steps.countP Step.isValidRequest + [f ended].countP Outcome.isNotReady ∧
        ∀ success, a.imports success = resultCount [f ended] success) :
    a.Explains ((f <$> w) m) steps fun outcome => [outcome] := by
  rw [Work.map_apply]
  refine ⟨hbalances, ?_, ?_⟩
  · intro outcome houtcome
    obtain ⟨ended, hended, rfl⟩ := Option.map_eq_some_iff.mp houtcome
    exact (h ended hended).1
  · intro outcome houtcome
    obtain ⟨ended, hended, rfl⟩ := Option.map_eq_some_iff.mp houtcome
    exact (h ended hended).2

theorem countP_isNotReady_waited (ended : Except Fault Snapshot) :
    [Outcome.waited ended].countP Outcome.isNotReady = Readiness.looksOf ended := by
  cases ended with
  | ok s => rfl
  | error fault => cases fault <;> rfl

theorem resultCount_verified (ended : Except Fault PackageReport) :
    resultCount [Outcome.verified ended] = Packages.resultsOf ended := by
  funext success
  cases ended with
  | ok report => simp [resultCount, Outcome.report?, Packages.resultsOf]
  | error fault => rfl

theorem Step.exists_account (step : Step) (m : Moment) :
    ∃ a : Account, a.polled = step.polled m ∧
      a.Explains (step.work m) [step] fun outcome => [outcome] := by
  cases step with
  | waitUntilReady target settings =>
      obtain ⟨looks, hbalances, hlooks⟩ := Readiness.balances_waitUntilReady target settings m
      refine ⟨{ polled := Readiness.waitPolled target settings m, looks }, rfl,
        .of_map hbalances fun ended hended => ⟨?_, fun _ => rfl⟩⟩
      rw [countP_isNotReady_waited, ← hlooks ended hended]
      exact (Nat.zero_add _).symm
  | waitForConnection target container settings =>
      have hbalances := Readiness.balances_waitForConnection target container settings m
      exact ⟨_, rfl, .of_map hbalances fun _ _ => ⟨rfl, fun _ => rfl⟩⟩
  | verify target settings container packages timeout =>
      obtain ⟨imports, hbalances, himports⟩ :=
        Packages.balances_verify target settings container packages timeout m
      refine ⟨_, rfl, .of_map hbalances fun ended hended => ⟨?_, fun success => ?_⟩⟩
      · by_cases hvalid : Packages.checkRequest packages timeout = .ok () <;>
          simp [isValidRequest, Outcome.isNotReady, hvalid]
      · rw [resultCount_verified, himports ended hended]
  | snippet target settings container code timeout =>
      have hbalances := Snippet.balances_run target settings container code timeout m
      exact ⟨_, rfl, .of_map hbalances fun _ _ => ⟨rfl, fun _ => rfl⟩⟩
  | suite target settings container checks deadline =>
      have hbalances := Snippet.balances_runSuite target settings container checks deadline m
      exact ⟨_, rfl, .of_map hbalances fun _ _ => ⟨rfl, fun _ => rfl⟩⟩

theorem resultCount_cons (outcome : Outcome) (outcomes : List Outcome) (success : Bool) :
    resultCount (outcome :: outcomes) success =
      resultCount [outcome] success + resultCount outcomes success := by
  rw [resultCount, List.filterMap_cons]
  cases h : outcome.report? <;> simp [resultCount, h]

theorem Account.Explains.followedBy {a b : Account} {step : Step} {steps : List Step}
    {t : Trace Outcome} {u : Trace (List Outcome)} {outcome : Outcome}
    (ht : a.Explains t [step] fun outcome => [outcome]) (hvalue : t.value = some outcome)
    (hu : b.Explains u steps id) :
    (a.add b).Explains (t.followedBy ⟨u.value.map (outcome :: ·), u.elapsed, u.entries⟩)
      (step :: steps) id := by
  refine ⟨ht.balances.append hu.balances, ?_, ?_⟩
  · intro ended h
    obtain ⟨outcomes, houtcomes, rfl⟩ := Option.map_eq_some_iff.mp h
    have hfirst := ht.looks outcome hvalue
    have hrest := hu.looks outcomes houtcomes
    simp only [id_eq, List.countP_cons, List.countP_nil, Account.add] at hfirst hrest ⊢
    omega
  · intro ended h success
    obtain ⟨outcomes, houtcomes, rfl⟩ := Option.map_eq_some_iff.mp h
    show a.imports success + b.imports success = resultCount (outcome :: outcomes) success
    rw [ht.imports outcome hvalue, hu.imports outcomes houtcomes, id_eq, ← resultCount_cons]

theorem exists_account_session (steps : List Step) (m : Moment) :
    ∃ a : Account, a.polled = polledIn steps m ∧ a.Explains (session steps m) steps id := by
  induction steps generalizing m with
  | nil =>
      refine ⟨{}, rfl, Account.balances_nil, ?_, ?_⟩
      · rintro _ ⟨⟩
        rfl
      · rintro _ ⟨⟩ success
        rfl
  | cons step rest ih =>
      obtain ⟨a, ha, hstep⟩ := step.exists_account m
      rw [polledIn, session]
      cases hvalue : (step.work m).value with
      | none =>
          rw [Work.bind_of_none _ _ _ hvalue]
          exact ⟨a, ha.trans (List.append_nil _).symm, hstep.balances, nofun, nofun⟩
      | some outcome =>
          obtain ⟨b, hb, hrest⟩ := ih (m.after (step.work m))
          rw [Work.bind_of_value _ _ _ hvalue, Work.bind_pure_apply]
          refine ⟨a.add b, ?_, hstep.followedBy hvalue hrest⟩
          rw [Account.add, ha, hb]

/-- Every request is accounted for in the counts that start at zero with a session, whatever
examinations there are in it, on whatever targets.  Even if the last one never ends, each command
that was run belongs to a poll or to an import, each import has its duration measured, and no more
polls of an operation run out of time than there are.  If all of them end, each snapshot belongs to
a poll, to a valid request to verify packages, or to a wait that returned a target which is not
ready; and the imports that are counted are the results of the reports that were returned. -/
theorem every_request_is_accounted_for (steps : List Step) (m : Moment) :
    let t := session steps m
    t.entries.countP Entry.isExecute =
        t.counted (.pollAttempts "exec connection") +
          t.counted (.pollAttempts "snippet execution") +
          t.counted (.packageImports true) + t.counted (.packageImports false) ∧
      t.entries.countP Entry.isSample =
        t.counted (.packageImports true) + t.counted (.packageImports false) ∧
      (∀ operation,
        t.counted (.pollTimeouts operation) ≤ (polledIn steps m).count operation) ∧
      ∀ outcomes, t.value = some outcomes →
        let reports := outcomes.filterMap Outcome.report?
        t.entries.countP Entry.isSnapshot =
            t.counted (.pollAttempts "pod existence") + t.counted (.pollAttempts "pod ready") +
              steps.countP Step.isValidRequest + outcomes.countP Outcome.isNotReady ∧
          t.counted (.packageImports true) =
            (reports.map fun report => (PackageReport.successful report).length).sum ∧
          t.counted (.packageImports false) =
            (reports.map fun report => (PackageReport.failed report).length).sum := by
  intro t
  obtain ⟨a, hpolled, hexplains⟩ := exists_account_session steps m
  have hbalances := hexplains.balances
  refine ⟨?_, ?_, fun operation => hpolled ▸ hbalances.timeouts operation, ?_⟩
  · rw [Trace.counted, Trace.counted, Trace.counted, Trace.counted, hbalances.imports,
      hbalances.imports]
    exact hbalances.executes
  · rw [Trace.counted, Trace.counted, hbalances.imports, hbalances.imports]
    exact hbalances.samples
  · intro outcomes h reports
    refine ⟨?_, ?_, ?_⟩
    · have hlooks := hexplains.looks outcomes h
      rw [hbalances.snapshots, hlooks, Nat.add_assoc _ (steps.countP _)]
      rfl
    · rw [Trace.counted, hbalances.imports, hexplains.imports outcomes h, resultCount]
      simp only [Packages.resultCount_true]
      rfl
    · rw [Trace.counted, hbalances.imports, hexplains.imports outcomes h, resultCount]
      simp only [Packages.resultCount_false]
      rfl

/-- A target that is absent at first and never ready, with a container that refuses commands for a
while, in which one package cannot be imported and no snippet ends. -/
def slowTarget : Target where
  name := "nb-0"
  onSnapshot m :=
    if m.now < 4000 then .after 3 (.ok none)
    else
      .after 3 (.ok (some { name := "nb-0", phase := .running, containers := [{ name := "nb" }] }))
  onExecute m _ argv :=
    if argv = ["echo", "connection_test"] then
      if m.past.length < 7 then .after 2 (.error (.connection "refused")) else .after 2 (.ok "")
    else if argv = ["python", "-c", "import os"] then .after 60 (.ok "")
    else if argv = ["python", "-c", "import numpy"] then
      .after 7 (.error (.execution "nb" "exit code 1"))
    else .never
  onLog _ _ _ := .after 2 (.error (.api "gone"))

/-- A wait that fails, one for a connection that succeeds at its second try, two requests to verify
packages of which one is refused, and a snippet that is cut off. -/
def slowSession : List Step :=
  [.waitUntilReady slowTarget { readinessTimeout := 6 },
    .waitForConnection slowTarget "nb" {},
    .verify slowTarget {} "nb" ["os", "numpy", "os"] 60000,
    .verify slowTarget {} "nb" [] 60000,
    .snippet slowTarget {} "nb" "while True: pass" 3000]

theorem slow_session_is_accounted_for :
    let t := session slowSession ⟨0, []⟩
    t.entries.countP Entry.isExecute = 2 + 1 + 1 + 1 ∧
      ∃ outcomes, t.value = some outcomes ∧
        t.entries.countP Entry.isSnapshot = 2 + 2 + 1 + outcomes.countP Outcome.isNotReady ∧
        ((outcomes.filterMap Outcome.report?).map
          fun report => (PackageReport.successful report).length).sum = 1 := by
  intro t
  have hended : t.value.isSome = true := by decide +kernel
  have hpolls : t.counted (.pollAttempts "exec connection") = 2 ∧
      t.counted (.pollAttempts "snippet execution") = 1 ∧
      t.counted (.pollAttempts "pod existence") = 2 ∧
      t.counted (.pollAttempts "pod ready") = 2 := by
    decide +kernel
  have himports : t.counted (.packageImports true) = 1 ∧
      t.counted (.packageImports false) = 1 := by
    decide +kernel
  have hvalid : slowSession.countP Step.isValidRequest = 1 := by decide +kernel
  obtain ⟨outcomes, houtcomes⟩ := Option.isSome_iff_exists.mp hended
  obtain ⟨hexecutes, -, -, hreturned⟩ := every_request_is_accounted_for slowSession ⟨0, []⟩
  obtain ⟨hsnapshots, hsuccessful, -⟩ := hreturned outcomes houtcomes
  obtain ⟨hconnection, hsnippet, hexistence, hready⟩ := hpolls
  refine ⟨?_, outcomes, houtcomes, ?_, hsuccessful.symm.trans himports.1⟩
  · rw [hconnection, hsnippet, himports.1, himports.2] at hexecutes
    exact hexecutes
  · rw [hexistence, hready, hvalid] at hsnapshots
    exact hsnapshots

end NotebookCheck

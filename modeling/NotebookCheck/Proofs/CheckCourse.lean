import Mathlib.Data.List.Basic
import NotebookCheck.Proofs.TimedPhases

namespace NotebookCheck.CommandLine

section

variable (target : Target) (settings : Settings) (container : String)

def readinessPhase : TimedPhase where
  name := "readiness"
  work := do
    let _ ← Readiness.waitUntilReady target settings
    return ()

def connectionPhase : TimedPhase where
  name := "exec connection"
  work := Readiness.waitForConnection target container settings

/-- A snippet that runs and fails ends its phase normally; only one that cannot be run does not. -/
def snippetPhase (check : SnippetCheck) : TimedPhase where
  name := "snippet " ++ check.name
  work := do
    let _ ← Snippet.runCheck target settings container check
    return ()

def checkPhaseList (checks : List SnippetCheck) : List TimedPhase :=
  readinessPhase target settings :: connectionPhase target settings container ::
    checks.map (snippetPhase target settings container)

def deadlineLeft {α : Type} (ended : Except Fault α × Deadline) : Except Fault Deadline :=
  ended.1.map fun _ => ended.2

theorem resembles_checkpoint (d : Deadline) (name : String) :
    Work.Resembles deadlineLeft (d.checkpoint name) (passCheckpoint d name).run := by
  intro m
  have hpass : (passCheckpoint d name).run m = _ :=
    Work.bind_pure_apply (d.checkpoint name) (fun ended => ended.1.map fun _ => ended.2) m
  rw [hpass]
  exact ⟨rfl, rfl⟩

theorem resembles_runEach (checks : List SnippetCheck) (d : Deadline) (report : SnippetReport) :
    Work.Resembles deadlineLeft (Snippet.runEach target settings container d report checks)
      (runPhases d (checks.map (snippetPhase target settings container))).run := by
  induction checks generalizing d report with
  | nil => exact fun _ => ⟨rfl, rfl⟩
  | cons check rest ih =>
      rw [Snippet.runEach, List.map_cons, runPhases, ExceptT.run_bind]
      refine Work.Resembles.bind (Attempt.resembles_bind_unit _) fun result => ?_
      cases result with
      | error fault => exact fun _ => ⟨rfl, rfl⟩
      | ok outcome =>
          change Work.Resembles _ _ (passCheckpoint d _ >>= fun d => runPhases d _ : Attempt _).run
          rw [ExceptT.run_bind]
          refine Work.Resembles.bind (resembles_checkpoint d _) fun ended => ?_
          obtain ⟨result, d'⟩ := ended
          cases result with
          | error fault => exact fun _ => ⟨rfl, rfl⟩
          | ok _ => exact ih d' _

theorem resembles_runSuite (checks : List SnippetCheck) (d : Deadline) :
    Work.Resembles deadlineLeft (Snippet.runSuite target settings container checks d)
      (runPhases d (checks.map (snippetPhase target settings container))).run := by
  refine Work.Resembles.note_bind _ _ _ ?_
  refine (resembles_runEach target settings container checks d .empty).bind_done fun ended => ?_
  obtain ⟨result, d'⟩ := ended
  cases result with
  | error fault => exact fun _ => ⟨rfl, rfl⟩
  | ok report => exact fun _ => ⟨rfl, rfl⟩

theorem resembles_checkPhases (checks : List SnippetCheck) (d : Deadline) :
    Work.Resembles (Except.map Prod.snd) (checkPhases target settings container checks d).run
      (runPhases d (checkPhaseList target settings container checks)).run := by
  refine Attempt.resembles_bind (Attempt.resembles_bind_unit _) fun _ => ?_
  refine Attempt.resembles_bind (f := id) ?_ fun d => ?_
  · rw [Except.map_id]
    exact .refl _
  refine Attempt.resembles_bind (f := id) ?_ fun _ => ?_
  · rw [Except.map_id]
    exact .refl _
  refine Attempt.resembles_bind (f := id) ?_ fun d => ?_
  · rw [Except.map_id]
    exact .refl _
  refine (resembles_runSuite target settings container checks d).bind_done fun ended => ?_
  obtain ⟨result, d'⟩ := ended
  cases result with
  | error fault => exact fun _ => ⟨rfl, rfl⟩
  | ok report => exact fun _ => ⟨rfl, rfl⟩

theorem run_finish_of_inTime (d : Deadline) (m : Moment) (h : d.elapsedAt m.now ≤ d.budget) :
    d.finish m =
      ⟨some (d.elapsedAt m.now), 0,
        [.event ⟨.info, "finished within overall timeout", d.fields m.now⟩]⟩ := by
  have hcheck : d.exceededAt m.now = false := decide_eq_false (Nat.not_lt.mpr h)
  rw [Deadline.finish, Work.bind_of_value _ _ m rfl, hcheck]
  rfl

theorem AllInTime.elapsedAt_whenOver_le {d : Deadline} {phases : List TimedPhase} {m : Moment}
    (h : AllInTime d phases m) (hne : phases ≠ []) :
    d.elapsedAt (whenOver phases m).now ≤ d.budget := by
  obtain ⟨before, last, rfl⟩ := List.eq_nil_or_concat phases |>.resolve_left hne
  rw [List.concat_eq_append] at h ⊢
  rw [whenOver_append_singleton]
  exact (h before last (List.prefix_refl _)).2

section

variable {α β : Type} {f : α → β} {value : Option (Except Fault α)}

theorem stopped_of_map_stopped {stop : Option Fault}
    (h : value.map (Except.map f) = stop.map .error) : value = stop.map .error := by
  match value, stop with
  | none, none => rfl
  | some (.error fault), some fault' => simpa [Except.map] using h

theorem finished_of_map_finished {b : β} (h : value.map (Except.map f) = some (.ok b)) :
    ∃ a, value = some (.ok a) := by
  match value with
  | some (.ok a) => exact ⟨a, rfl⟩

end

/-- A phase of a check begins exactly if all phases before it have ended normally and in time, and
each phase that begins is done to its end.  A check stops at the first phase that never ends, fails,
or ends too late, without another call; the fault of a phase that ends too late has its name, its
number and the time.  A check that comes to a report is within its budget, and is put on record as
such. -/
theorem checkPhases_course (checks : List SnippetCheck) (started budget : Nat) (m : Moment) :
    let d : Deadline := { started, budget }
    let phases := checkPhaseList target settings container checks
    let t := (checkPhases target settings container checks d).run m
    ∃ begun, begun <+: phases ∧ m.after t = whenOver begun m ∧
      (∀ before phase, before ++ [phase] <+: phases →
        (before ++ [phase] <+: begun ↔ AllInTime d before m)) ∧
      (∀ before phase stop, before ++ [phase] <+: phases → AllInTime d before m →
        StopsAt d (before.length + 1) phase (whenOver before m) stop →
        begun = before ++ [phase] ∧ t.value = stop.map .error) ∧
      (∀ before phase, before ++ [phase] <+: phases → AllInTime d before m →
        let ended := d.elapsedAt (whenOver (before ++ [phase]) m).now
        (phase.work.run (whenOver before m)).value = some (.ok ()) → budget < ended →
        before.length + 1 < UInt32.size →
        begun = before ++ [phase] ∧
          t.value = some (.error (.timeout ("overall deadline at '" ++ phase.name ++ "'") ended
            budget (before.length + 1)))) ∧
      ((∃ report d', t.value = some (.ok (report, d'))) ↔ AllInTime d phases m) ∧
      ∀ report d', t.value = some (.ok (report, d')) →
        begun = phases ∧ d.elapsedAt (m.after t).now ≤ budget ∧
        d'.finish (m.after t) =
          ⟨some (d.elapsedAt (m.after t).now), 0,
            [.event ⟨.info, "finished within overall timeout", d.fields (m.after t).now⟩]⟩ := by
  intro d phases t
  obtain ⟨hafter, hvalue⟩ := resembles_checkPhases target settings container checks d m
  obtain ⟨begun, hbegun, hended, hstarts, hstops, hall, hreport⟩ :=
    (runPhases_course phases d 0 m).tells
  have hcounted : afterChecks d 0 = d := rfl
  simp only [hcounted, Nat.zero_add] at hended hstops hall hreport
  rw [← hvalue] at hstops hall hreport
  have hleft : ∀ report d', t.value = some (.ok (report, d')) →
      t.value.map (Except.map Prod.snd) = some (.ok d') := by
    intro report d' h
    rw [h]
    rfl
  have hstop : ∀ before phase stop, before ++ [phase] <+: phases → AllInTime d before m →
      StopsAt d (before.length + 1) phase (whenOver before m) stop →
      begun = before ++ [phase] ∧ t.value = stop.map .error := by
    intro before phase stop hphase hbefore hstop
    obtain ⟨heq, hresult⟩ := hstops before phase stop hphase hbefore hstop
    exact ⟨heq, stopped_of_map_stopped hresult⟩
  refine ⟨begun, hbegun, hafter.trans hended, hstarts, hstop, ?_, ⟨?_, ?_⟩, ?_⟩
  · intro before phase hphase hbefore ended hnormal hlate hnumber
    have hcount : min (before.length + 1) (UInt32.size - 1) = before.length + 1 :=
      Nat.min_eq_left (Nat.le_sub_one_of_lt hnumber)
    rw [← hcount]
    refine hstop before phase _ hphase hbefore (.late ?_ hnormal hlate)
    rw [← whenOver_append_singleton]
  · rintro ⟨report, d', h⟩
    exact hall.mp ⟨d', hleft report d' h⟩
  · intro h
    obtain ⟨d', hmapped⟩ := hall.mpr h
    obtain ⟨⟨report, d''⟩, hvalue⟩ := finished_of_map_finished hmapped
    exact ⟨report, d'', hvalue⟩
  · intro report d' h
    have hinTime := hall.mp ⟨d', hleft report d' h⟩
    obtain ⟨hbegun, rfl⟩ := hreport d' (hleft report d' h)
    have htime : d.elapsedAt (m.after t).now ≤ budget := by
      rw [hafter.trans hended, hbegun]
      exact hinTime.elapsedAt_whenOver_le (List.cons_ne_nil _ _)
    exact ⟨hbegun, htime, run_finish_of_inTime _ _ htime⟩

end

def slowTarget : Target where
  name := "nb-0"
  onSnapshot _ := .after 5000 (.ok (some {
    name := "nb-0", phase := .running, containers := [{ name := "nb" }]
    conditions := [{ kind := "Ready", status := "True" }] }))
  onExecute _ _ _ := .never
  onLog _ _ _ := .never

/-- The wait for readiness takes two snapshots, so it ends after ten seconds, past nine. -/
theorem checkPhases_of_slow_readiness :
    let d : Deadline := { started := 0, budget := 9000 }
    let readiness := readinessPhase slowTarget {}
    let phases := checkPhaseList slowTarget {} "nb" []
    let t := (checkPhases slowTarget {} "nb" [] d).run ⟨0, []⟩
    [] ++ [readiness] <+: phases ∧ AllInTime d [] ⟨0, []⟩ ∧
      (readiness.work.run ⟨0, []⟩).value = some (.ok ()) ∧
      d.budget < d.elapsedAt (whenOver ([] ++ [readiness]) ⟨0, []⟩).now ∧
      t.value = some (.error (.timeout "overall deadline at 'readiness'" 10000 9000 1)) := by
  intro d readiness phases t
  have hfirst : [] ++ [readiness] <+: phases := List.prefix_append [readiness] _
  have hnormal : (readiness.work.run ⟨0, []⟩).value = some (.ok ()) := by decide +kernel
  have helapsed : d.elapsedAt (whenOver ([] ++ [readiness]) ⟨0, []⟩).now = 10000 := by
    decide +kernel
  have hlate : d.budget < d.elapsedAt (whenOver ([] ++ [readiness]) ⟨0, []⟩).now := by
    rw [helapsed]
    decide
  obtain ⟨_, -, -, -, -, htooLate, -⟩ :=
    checkPhases_course slowTarget {} "nb" [] 0 9000 ⟨0, []⟩
  obtain ⟨-, hvalue⟩ := htooLate [] readiness hfirst allInTime_nil hnormal hlate (by decide)
  rw [helapsed] at hvalue
  exact ⟨hfirst, allInTime_nil, hnormal, hlate, hvalue⟩

end NotebookCheck.CommandLine

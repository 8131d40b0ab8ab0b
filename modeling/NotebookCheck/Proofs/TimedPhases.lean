import NotebookCheck.CommandLine.Run
import NotebookCheck.Proofs.Work

/-!
Phases under a deadline.  They are done one after the other, and the budget is looked at only where
one of them has ended.  So a phase begins exactly if all phases before it have ended in time, and no
phase is cut short.
-/

namespace NotebookCheck.CommandLine

/-- A phase: the name under which its end is looked at, and its work. -/
structure TimedPhase where
  name : String
  work : Attempt Unit

def runPhases (d : Deadline) : List TimedPhase → Attempt Deadline
  | [] => pure d
  | phase :: rest => do
      phase.work
      runPhases (← passCheckpoint d phase.name) rest

/-- The moment at which phases are over that have been done one after the other: it has the time
that they took and the calls that they made, from first to last. -/
def whenOver (phases : List TimedPhase) (m : Moment) : Moment :=
  phases.foldl (fun start phase => start.after (phase.work.run start)) m

/-- A phase that begins at a moment ends normally, and the time since the start of the deadline is
then within the budget. -/
def EndsInTime (d : Deadline) (phase : TimedPhase) (start : Moment) : Prop :=
  (phase.work.run start).value = some (.ok ()) ∧
    d.elapsedAt (start.after (phase.work.run start)).now ≤ d.budget

/-- Phases that are done one after the other all end in time. -/
def AllInTime (d : Deadline) (phases : List TimedPhase) (m : Moment) : Prop :=
  ∀ before phase, before ++ [phase] <+: phases → EndsInTime d phase (whenOver before m)

/-- Why phases stop at the one with the given number: it never ends, it fails with a fault, or it
ends normally but too late, which is a fault of its own. -/
inductive StopsAt (d : Deadline) (number : Nat) (phase : TimedPhase) (start : Moment) :
    Option Fault → Prop where
  | unending (h : (phase.work.run start).value = none) : StopsAt d number phase start none
  | failed {fault : Fault} (h : (phase.work.run start).value = some (.error fault)) :
      StopsAt d number phase start (some fault)
  | late {ended : Nat} (hended : ended = d.elapsedAt (start.after (phase.work.run start)).now)
      (h : (phase.work.run start).value = some (.ok ())) (hlate : d.budget < ended) :
      StopsAt d number phase start (some (.timeout
        ("overall deadline at '" ++ phase.name ++ "'") ended d.budget
        (min number (UInt32.size - 1))))

section

variable {d : Deadline} {number : Nat} {phases rest before : List TimedPhase} {phase : TimedPhase}
  {m : Moment} {stop stop' : Option Fault}

theorem whenOver_append_singleton (before : List TimedPhase) (phase : TimedPhase) (m : Moment) :
    whenOver (before ++ [phase]) m =
      (whenOver before m).after (phase.work.run (whenOver before m)) :=
  List.foldl_append ..

theorem allInTime_nil : AllInTime d [] m := by
  intro before phase h
  simp at h

theorem AllInTime.of_prefix (h : AllInTime d phases m) (hbefore : before <+: phases) :
    AllInTime d before m :=
  fun earlier phase hphase => h earlier phase (hphase.trans hbefore)

theorem allInTime_cons_iff :
    AllInTime d (phase :: rest) m ↔
      EndsInTime d phase m ∧ AllInTime d rest (m.after (phase.work.run m)) := by
  constructor
  · intro h
    refine ⟨h [] phase (List.prefix_append [phase] rest), ?_⟩
    intro before next hnext
    exact h (phase :: before) next (List.cons_prefix_cons.mpr ⟨rfl, hnext⟩)
  · rintro ⟨hphase, hrest⟩ before next hnext
    cases before with
    | nil =>
        obtain ⟨rfl, -⟩ := List.cons_prefix_cons.mp hnext
        exact hphase
    | cons first before =>
        obtain ⟨rfl, htail⟩ := List.cons_prefix_cons.mp hnext
        exact hrest before next htail

theorem StopsAt.not_endsInTime (h : StopsAt d number phase m stop) :
    ¬ EndsInTime d phase m := by
  rintro ⟨hvalue, htime⟩
  cases h with
  | unending h => simp [h] at hvalue
  | failed h => simp [h] at hvalue
  | late hended h hlate => omega

theorem StopsAt.unique (h : StopsAt d number phase m stop) (h' : StopsAt d number phase m stop') :
    stop = stop' := by
  cases h <;> cases h' <;> simp_all

end

def afterChecks (d : Deadline) (n : Nat) : Deadline :=
  { d with checkpoints := min n (UInt32.size - 1) }

theorem checked_afterChecks (d : Deadline) (n : Nat) :
    (afterChecks d n).checked = afterChecks d (n + 1) := by
  have hcount : min (min n (UInt32.size - 1) + 1) (UInt32.size - 1) =
      min (n + 1) (UInt32.size - 1) := by
    omega
  rw [Deadline.checked, afterChecks, hcount]
  rfl

theorem run_passCheckpoint_of_inTime (d : Deadline) (name : String) (m : Moment)
    (h : d.elapsedAt m.now ≤ d.budget) :
    (passCheckpoint d name).run m = ⟨some (.ok d.checked), 0, []⟩ := by
  have hcheck : d.exceededAt m.now = false := decide_eq_false (Nat.not_lt.mpr h)
  change (d.checkpoint name >>= fun ended => pure (ended.1.map fun _ => ended.2)) m = _
  rw [Work.bind_pure_apply, Deadline.checkpoint, Work.bind_of_value _ _ m rfl, hcheck]
  rfl

theorem run_passCheckpoint_of_late (d : Deadline) (name : String) (m : Moment)
    (h : d.budget < d.elapsedAt m.now) :
    (passCheckpoint d name).run m =
      ⟨some (.error (.timeout ("overall deadline at '" ++ name ++ "'") (d.elapsedAt m.now) d.budget
          d.checked.checkpoints)), 0,
        [.event ⟨.warn, "overall timeout exceeded", ("phase", .text name) :: d.fields m.now⟩]⟩ := by
  have hcheck : d.exceededAt m.now = true := decide_eq_true h
  change (d.checkpoint name >>= fun ended => pure (ended.1.map fun _ => ended.2)) m = _
  rw [Work.bind_pure_apply, Deadline.checkpoint, Work.bind_of_value _ _ m rfl, hcheck]
  rfl

/-- How phases end that are done one after the other, after so many looks at the budget: all of them
in time, or with the first one that does not. -/
inductive Course (d : Deadline) (n : Nat) (phases : List TimedPhase) (m : Moment) :
    Moment → Option (Except Fault Deadline) → Prop where
  | finished (h : AllInTime d phases m) :
      Course d n phases m (whenOver phases m) (some (.ok (afterChecks d (n + phases.length))))
  | stopped {before : List TimedPhase} {phase : TimedPhase} {stop : Option Fault}
      (hphase : before ++ [phase] <+: phases) (hbefore : AllInTime d before m)
      (hstops : StopsAt d (n + before.length + 1) phase (whenOver before m) stop) :
      Course d n phases m (whenOver (before ++ [phase]) m) (stop.map .error)

section

variable {d : Deadline} {n : Nat} {phase : TimedPhase} {phases rest : List TimedPhase}
  {m ended : Moment} {stop : Option Fault} {result : Option (Except Fault Deadline)}

theorem Course.of_first (h : StopsAt d (n + 1) phase m stop) :
    Course d n (phase :: rest) m (m.after (phase.work.run m)) (stop.map .error) := by
  show Course d n (phase :: rest) m (whenOver ([] ++ [phase]) m) (stop.map .error)
  exact .stopped (List.prefix_append [phase] rest) allInTime_nil h

theorem Course.cons (hphase : EndsInTime d phase m)
    (h : Course d (n + 1) rest (m.after (phase.work.run m)) ended result) :
    Course d n (phase :: rest) m ended result := by
  cases h with
  | finished h =>
      have hcount : n + 1 + rest.length = n + (phase :: rest).length := by
        rw [List.length_cons]
        omega
      rw [hcount]
      exact .finished (allInTime_cons_iff.mpr ⟨hphase, h⟩)
  | @stopped before next stop hnext hbefore hstops =>
      have hcount : n + 1 + before.length + 1 = n + (phase :: before).length + 1 := by
        rw [List.length_cons]
        omega
      rw [hcount] at hstops
      show Course d n (phase :: rest) m (whenOver ((phase :: before) ++ [next]) m) (stop.map .error)
      exact .stopped (List.cons_prefix_cons.mpr ⟨rfl, hnext⟩)
        (allInTime_cons_iff.mpr ⟨hphase, hbefore⟩) hstops

theorem runPhases_course (phases : List TimedPhase) (d : Deadline) (n : Nat) (m : Moment) :
    Course d n phases m (m.after ((runPhases (afterChecks d n) phases).run m))
      ((runPhases (afterChecks d n) phases).run m).value := by
  -- Each phase is followed by one more look at the budget, so the count of looks is general.
  induction phases generalizing n m with
  | nil => exact .finished allInTime_nil
  | cons phase rest ih =>
      rw [runPhases]
      cases hvalue : (phase.work.run m).value with
      | none =>
          rw [Attempt.run_bind_of_none _ _ _ hvalue]
          exact .of_first (.unending hvalue)
      | some ended =>
          cases ended with
          | error fault =>
              rw [Attempt.run_bind_of_error _ _ _ hvalue]
              exact .of_first (.failed hvalue)
          | ok _ =>
              rw [Attempt.run_bind_of_ok _ _ _ hvalue, Moment.after_followedBy]
              by_cases htime : d.elapsedAt (m.after (phase.work.run m)).now ≤ d.budget
              · have hpass := run_passCheckpoint_of_inTime (afterChecks d n) phase.name
                  (m.after (phase.work.run m)) htime
                rw [Attempt.run_bind_of_ok _ _ _ (congrArg Trace.value hpass), hpass,
                  checked_afterChecks, Moment.after_followedBy]
                exact .cons ⟨hvalue, htime⟩ (ih (n + 1) _)
              · have hlate := Nat.lt_of_not_le htime
                have hpass := run_passCheckpoint_of_late (afterChecks d n) phase.name
                  (m.after (phase.work.run m)) hlate
                rw [Attempt.run_bind_of_error _ _ _ (congrArg Trace.value hpass), hpass,
                  checked_afterChecks]
                exact .of_first (.late rfl hvalue hlate)

/-- What a course tells: which phases have begun, at which of them it stopped and why, and whether
it came to its end. -/
theorem Course.tells (h : Course d n phases m ended result) :
    ∃ begun, begun <+: phases ∧ ended = whenOver begun m ∧
      (∀ before phase, before ++ [phase] <+: phases →
        (before ++ [phase] <+: begun ↔ AllInTime d before m)) ∧
      (∀ before phase stop, before ++ [phase] <+: phases → AllInTime d before m →
        StopsAt d (n + before.length + 1) phase (whenOver before m) stop →
        begun = before ++ [phase] ∧ result = stop.map .error) ∧
      ((∃ d', result = some (.ok d')) ↔ AllInTime d phases m) ∧
      ∀ d', result = some (.ok d') → begun = phases ∧ d' = afterChecks d (n + phases.length) := by
  cases h with
  | finished h =>
      refine ⟨phases, List.prefix_refl _, rfl, ?_, ?_, ⟨fun _ => h, fun _ => ⟨_, rfl⟩⟩, ?_⟩
      · intro before phase hphase
        have hbefore := h.of_prefix ((List.prefix_append before [phase]).trans hphase)
        exact ⟨fun _ => hbefore, fun _ => hphase⟩
      · intro before phase stop hphase _ hstops
        exact absurd (h before phase hphase) hstops.not_endsInTime
      · intro d' h
        cases h
        exact ⟨rfl, rfl⟩
  | @stopped earlier last stop hlast hearlier hstops =>
      -- A phase after one that did not end in time has a phase before it that did not.
      have hbegun : ∀ before phase, before ++ [phase] <+: phases →
          (before ++ [phase] <+: earlier ++ [last] ↔ AllInTime d before m) := by
        intro before phase hphase
        constructor
        · intro h
          rcases List.prefix_concat_iff.mp h with heq | hprefix
          · obtain ⟨rfl, -⟩ := List.append_inj' heq rfl
            exact hearlier
          · exact hearlier.of_prefix ((List.prefix_append before [phase]).trans hprefix)
        · intro h
          rcases List.prefix_or_prefix_of_prefix hphase hlast with hprefix | hprefix
          · exact hprefix
          · rcases List.prefix_concat_iff.mp hprefix with heq | hshort
            · exact heq ▸ List.prefix_refl _
            · exact absurd (h earlier last hshort) hstops.not_endsInTime
      have hno : ∀ d' : Deadline, stop.map Except.error ≠ some (.ok d') := by
        intro d' h
        cases stop <;> cases h
      refine ⟨earlier ++ [last], hlast, rfl, hbegun, ?_, ⟨?_, ?_⟩, ?_⟩
      · intro before phase stop' hphase hbefore hstops'
        rcases List.prefix_concat_iff.mp ((hbegun before phase hphase).mpr hbefore) with
          heq | hprefix
        · obtain ⟨rfl, hsame⟩ := List.append_inj' heq rfl
          cases hsame
          exact ⟨rfl, congrArg _ (hstops.unique hstops')⟩
        · exact absurd (hearlier before phase hprefix) hstops'.not_endsInTime
      · rintro ⟨d', h⟩
        exact absurd h (hno d')
      · intro h
        exact absurd (h earlier last hlast) hstops.not_endsInTime
      · intro d' h
        exact absurd h (hno d')

end

end NotebookCheck.CommandLine

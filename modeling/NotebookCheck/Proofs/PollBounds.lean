import Mathlib.Algebra.GroupWithZero.Nat
import NotebookCheck.Proofs.PollAttempts

namespace NotebookCheck.Poller

theorem startOf_of_instant {interval : ℕ} {delay : ℕ → ℕ} {k : ℕ} (h : ∀ j < k, delay j = 0) :
    startOf interval delay k = k * interval := by
  induction k with
  | zero => rw [startOf, Nat.zero_mul]
  | succ k ih =>
      rw [startOf_succ, endOf, ih fun j hj => h j (Nat.lt_succ_of_lt hj), h k k.lt_succ_self,
        Nat.succ_mul, Nat.add_zero]

variable {α : Type} {p : Poller} {probe : ℕ → Attempt (Tick α)} {m : Moment} {last : ℕ}

namespace IsLast

variable (hlast : p.IsLast probe m last)
include hlast

theorem le_div : last ≤ p.timeout / p.interval := by
  rw [Nat.le_div_iff_mul_le p.interval_pos]
  exact (mul_interval_le_startOf _ _ _).trans hlast.startOf_le

theorem eq_div_of_instant
    (h : ∀ k < p.timeout / p.interval,
      p.delayOf probe m k = 0 ∧ p.GoesOn (p.answerOf probe m k)) :
    last = p.timeout / p.interval := by
  refine le_antisymm hlast.le_div ((le_iff_of_isLeast_endsAt hlast _).mpr ⟨?_, ?_⟩)
  · exact fun k hk => (h k hk).2
  · rw [startOf_of_instant fun k hk => (h k hk).1]
    exact Nat.div_mul_le_self _ _

theorem endOf_le :
    endOf p.interval (p.delayOf probe m) last ≤ p.timeout + p.delayOf probe m last :=
  Nat.add_le_add_right hlast.startOf_le _

theorem counted_runEach (hanswers : ∀ k ≤ last, (p.probeTrace probe m k).value.isSome = true) :
    ((p.runEach probe).run m).counted (.pollAttempts p.operation) =
      ((List.range (last + 1)).map fun k =>
        1 + (p.probeTrace probe m k).counted (.pollAttempts p.operation)).sum := by
  have hprobe (k : ℕ) : (p.probeEntries probe m k).count (.count (.pollAttempts p.operation)) =
      1 + (p.probeTrace probe m k).counted (.pollAttempts p.operation) := by
    rw [probeEntries, List.count_cons_self, Trace.counted, Nat.add_comm]
  have hpassed (k : ℕ) : (p.probeEntries probe m k ++ p.ignoredNote k (p.answerOf probe m k)).count
      (.count (.pollAttempts p.operation)) =
        1 + (p.probeTrace probe m k).counted (.pollAttempts p.operation) := by
    rw [List.count_append, count_of_notes (p.isNoteAfter_of_mem_ignoredNote k _), hprobe,
      Nat.add_zero]
  rw [runEach_of_isLast hlast hanswers, Trace.counted, List.count_append, List.count_append,
    count_of_notes (p.isNoteAfter_of_mem_closingNote last _ _), hprobe, List.count_flatMap,
    List.range_succ, List.map_append, List.sum_append]
  simp only [Function.comp_def, hpassed, List.map_cons, List.map_nil, List.sum_cons, List.sum_nil,
    Nat.add_zero]

end IsLast

/-- What a poll leaves whose last probe has the given number.  It makes that probe and those before
it; they are at most one more than there are whole intervals in its timeout, and exactly that many
if those before the last possible one take no time and go on.  The poll passes its timeout by no
more than the last probe takes.  It fails as that probe does, if the fault is not to be ignored, or
because it ran out of time; then less than an interval of the timeout is left. -/
structure KeepsBounds (p : Poller) (probe : ℕ → Attempt (Tick α)) (m : Moment)
    (t : Trace (Except Fault α)) (last : ℕ) : Prop where
  calls : t.calls = (List.range (last + 1)).flatMap fun k => (p.probeTrace probe m k).calls
  counted : t.counted (.pollAttempts p.operation) =
    ((List.range (last + 1)).map fun k =>
      1 + (p.probeTrace probe m k).counted (.pollAttempts p.operation)).sum
  probes_le : last + 1 ≤ p.timeout / p.interval + 1
  probes_eq :
    (∀ k < p.timeout / p.interval,
      p.delayOf probe m k = 0 ∧ p.GoesOn (p.answerOf probe m k)) →
    last + 1 = p.timeout / p.interval + 1
  elapsed_le : t.elapsed ≤ p.timeout + p.delayOf probe m last
  fault_iff : ∀ fault, t.value = some (.error fault) ↔
    (p.answerOf probe m last = .error fault ∧ fault.kind ∉ p.ignorable) ∨
      (p.GoesOn (p.answerOf probe m last) ∧
        .timeout p.operation t.elapsed p.timeout (min (last + 1) maxAttempts) = fault)
  timeout_lt : p.GoesOn (p.answerOf probe m last) → p.timeout < t.elapsed + p.interval

/-- Polling ends, within its bounds, if each probe that is made answers. -/
theorem runEach_ends (p : Poller) (probe : ℕ → Attempt (Tick α)) (m : Moment)
    (hanswers : ∀ k, (p.probeTrace probe m k).value.isSome = true) :
    ((p.runEach probe).run m).value.isSome = true ∧
      ∃ last, p.KeepsBounds probe m ((p.runEach probe).run m) last := by
  obtain ⟨last, hlast⟩ := p.exists_isLast probe m
  have hrun := runEach_of_isLast hlast fun k _ => hanswers k
  have hvalue := congrArg Trace.value hrun
  have helapsed := congrArg Trace.elapsed hrun
  refine ⟨by rw [hvalue]; rfl, last, ?_⟩
  constructor
  case calls => exact calls_runEach hlast fun k _ => hanswers k
  case counted => exact hlast.counted_runEach fun k _ => hanswers k
  case probes_le => exact Nat.succ_le_succ hlast.le_div
  case probes_eq => exact fun h => congrArg Nat.succ (hlast.eq_div_of_instant h)
  case elapsed_le =>
      rw [helapsed]
      exact hlast.endOf_le
  case fault_iff =>
      intro fault
      rw [hvalue, helapsed, Option.some_inj]
      exact outcome_eq_error_iff
  case timeout_lt =>
      rw [helapsed]
      exact timeout_lt_of_endsAt hlast.1

/-- A probe that is pending and fails by turns, at once, is made at each whole interval. -/
theorem runEach_of_unsteady_probe :
    let p : Poller := ⟨"sample", 3, 10, [.api], by decide, by decide⟩
    let probe : ℕ → Attempt (Tick ℕ) := fun k =>
      Attempt.ofExcept (if k % 2 = 0 then .ok .pending else .error (.api "busy"))
    let t := (p.runEach probe).run ⟨0, []⟩
    (∀ k, (p.probeTrace probe ⟨0, []⟩ k).value.isSome = true) ∧
      t.counted (.pollAttempts "sample") = 4 ∧ 7 < t.elapsed ∧ t.elapsed ≤ 10 ∧
      t.value = some (.error (.timeout "sample" t.elapsed 10 4)) := by
  intro p probe t
  have hanswers : ∀ k, (p.probeTrace probe ⟨0, []⟩ k).value.isSome = true := fun _ => rfl
  have hgoes : ∀ k, p.delayOf probe ⟨0, []⟩ k = 0 ∧ p.GoesOn (p.answerOf probe ⟨0, []⟩ k) := by
    intro k
    refine ⟨rfl, ?_⟩
    change p.GoesOn (if k % 2 = 0 then .ok .pending else .error (.api "busy"))
    split
    · exact .inl rfl
    · exact .inr ⟨_, rfl, by decide⟩
  obtain ⟨-, last, hbounds⟩ := runEach_ends p probe ⟨0, []⟩ hanswers
  have hroom : p.timeout / p.interval = 3 := by simp [p]
  have hmade := hbounds.probes_eq fun k _ => hgoes k
  obtain rfl : last = 3 := by omega
  have hlate : 10 < t.elapsed + 3 := hbounds.timeout_lt (hgoes 3).2
  exact ⟨hanswers, hbounds.counted, by omega, hbounds.elapsed_le,
    (hbounds.fault_iff _).mpr (.inr ⟨(hgoes 3).2, rfl⟩)⟩

end NotebookCheck.Poller

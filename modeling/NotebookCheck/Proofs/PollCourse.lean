import NotebookCheck.Proofs.Polling

namespace NotebookCheck.Poller

theorem ofBounds_of_pos (operation : String) {interval timeout : ℕ} (hinterval : 0 < interval)
    (htimeout : 0 < timeout) :
    ofBounds operation interval timeout =
      .ok { operation, interval, timeout, interval_pos := hinterval, timeout_pos := htimeout } := by
  rw [ofBounds, dif_neg hinterval.ne', dif_neg htimeout.ne']

variable {α : Type} (p : Poller) (probe : ℕ → Attempt (Tick α)) (m : Moment)

def answerOf (k : ℕ) : Except Fault (Tick α) :=
  (p.probeTrace probe m k).value.getD (.ok .pending)

/-- A number is that of the last probe, if all of them up to it answer. -/
def IsLast (n : ℕ) : Prop :=
  IsLeast {k | p.EndsAt (p.delayOf probe m) (p.answerOf probe m) k} n

theorem exists_isLast : ∃ n, p.IsLast probe m n := by
  classical
  have hexists := exists_endsAt p (p.delayOf probe m) (p.answerOf probe m)
  exact ⟨Nat.find hexists, Nat.find_spec hexists, fun k hk => Nat.find_min' hexists hk⟩

variable {p probe m} {n : ℕ}

theorem value_probeTrace_of_isSome {k : ℕ} (h : (p.probeTrace probe m k).value.isSome = true) :
    (p.probeTrace probe m k).value = some (p.answerOf probe m k) := by
  obtain ⟨answer, hanswer⟩ := Option.isSome_iff_exists.mp h
  rw [answerOf, hanswer, Option.getD_some]

theorem IsLast.not_endsAt (hlast : p.IsLast probe m n) {k : ℕ} (hk : k < n) :
    ¬ p.EndsAt (p.delayOf probe m) (p.answerOf probe m) k :=
  fun hend => absurd (hlast.2 hend) (Nat.not_le.mpr hk)

theorem IsLast.startOf_le (hlast : p.IsLast probe m n) :
    startOf p.interval (p.delayOf probe m) n ≤ p.timeout :=
  ((le_iff_of_isLeast_endsAt hlast n).mp le_rfl).2

theorem runEach_of_isLast (hlast : p.IsLast probe m n)
    (hanswers : ∀ k ≤ n, (p.probeTrace probe m k).value.isSome = true) :
    (p.runEach probe).run m =
      ⟨some (p.outcome n (endOf p.interval (p.delayOf probe m) n) (p.answerOf probe m n)),
        endOf p.interval (p.delayOf probe m) n,
        ((List.range n).flatMap fun k =>
          p.probeEntries probe m k ++ p.ignoredNote k (p.answerOf probe m k)) ++
        (p.probeEntries probe m n ++
          p.closingNote n (endOf p.interval (p.delayOf probe m) n) (p.answerOf probe m n))⟩ := by
  have hmade := fun k hk => value_probeTrace_of_isSome (hanswers k hk)
  rw [runEach_eq_followedBy p probe m (p.answerOf probe m) n
    fun k hk => ⟨hmade k hk.le, hlast.not_endsAt hk⟩]
  rw [runFrom_of_ends p probe _ n _ (hmade n le_rfl) (timeout_lt_of_endsAt hlast.1)]
  rfl

theorem value_runEach_of_unanswered (hlast : p.IsLast probe m n) {k : ℕ} (hk : k ≤ n)
    (hnone : (p.probeTrace probe m k).value = none) :
    ((p.runEach probe).run m).value = none := by
  induction k using Nat.strong_induction_on with
  | _ k ih =>
      by_cases hearlier : ∃ j < k, (p.probeTrace probe m j).value = none
      · obtain ⟨j, hj, hunanswered⟩ := hearlier
        exact ih j hj (hj.le.trans hk) hunanswered
      · push Not at hearlier
        rw [runEach_eq_followedBy p probe m (p.answerOf probe m) k
          fun j hj => ⟨value_probeTrace_of_isSome (Option.isSome_iff_ne_none.mpr (hearlier j hj)),
            hlast.not_endsAt (hj.trans_le hk)⟩]
        rw [runFrom_of_none p probe _ k _ hnone]
        rfl

theorem value_runEach_eq_some_iff (hlast : p.IsLast probe m n) (result : Except Fault α) :
    ((p.runEach probe).run m).value = some result ↔
      (∀ k ≤ n, (p.probeTrace probe m k).value.isSome = true) ∧
        p.outcome n (endOf p.interval (p.delayOf probe m) n) (p.answerOf probe m n) = result := by
  constructor
  · intro h
    have hanswers : ∀ k ≤ n, (p.probeTrace probe m k).value.isSome = true := by
      intro k hk
      by_contra hnone
      rw [value_runEach_of_unanswered hlast hk (by simpa using hnone)] at h
      cases h
    rw [runEach_of_isLast hlast hanswers] at h
    exact ⟨hanswers, Option.some_inj.mp h⟩
  · rintro ⟨hanswers, rfl⟩
    rw [runEach_of_isLast hlast hanswers]

theorem calls_probeEntries (k : ℕ) :
    (p.probeEntries probe m k).filterMap Entry.call? = (p.probeTrace probe m k).calls := rfl

theorem calls_runEach (hlast : p.IsLast probe m n)
    (hanswers : ∀ k ≤ n, (p.probeTrace probe m k).value.isSome = true) :
    ((p.runEach probe).run m).calls =
      (List.range (n + 1)).flatMap fun k => (p.probeTrace probe m k).calls := by
  rw [runEach_of_isLast hlast hanswers, Trace.calls]
  simp only [List.filterMap_append, List.filterMap_flatMap, calls_probeEntries,
    calls_ignoredNote, calls_closingNote, List.append_nil]
  rw [List.range_succ, List.flatMap_append, List.flatMap_singleton]

theorem past_momentOf (k : ℕ) :
    (p.momentOf probe m k).past =
      ((List.range k).flatMap fun j => (p.probeTrace probe m j).calls).reverse ++ m.past := by
  induction k with
  | zero => rfl
  | succ k ih =>
      rw [List.range_succ, List.flatMap_append, List.reverse_append, List.append_assoc, ← ih]
      simp [momentOf, Moment.after, probeTrace]

theorem askedAfter_flatMap_calls (k : ℕ) :
    Trace.askedAfter m.past
        ((List.range k).flatMap fun j => (p.probeTrace probe m j).calls) =
      (List.range k).flatMap fun j =>
        (p.probeTrace probe m j).asked (p.momentOf probe m j) := by
  induction k with
  | zero => rfl
  | succ k ih =>
      rw [List.range_succ, List.flatMap_append, List.flatMap_append, Trace.askedAfter_append, ih,
        ← past_momentOf]
      simp [Trace.asked]

/-- A poll asks what its probes ask, each from the moment at which it is made. -/
theorem asked_runEach (hlast : p.IsLast probe m n)
    (hanswers : ∀ k ≤ n, (p.probeTrace probe m k).value.isSome = true) :
    ((p.runEach probe).run m).asked m =
      (List.range (n + 1)).flatMap fun k =>
        (p.probeTrace probe m k).asked (p.momentOf probe m k) := by
  rw [Trace.asked, calls_runEach hlast hanswers, askedAfter_flatMap_calls]

theorem after_runEach (hlast : p.IsLast probe m n)
    (hanswers : ∀ k ≤ n, (p.probeTrace probe m k).value.isSome = true) :
    m.after ((p.runEach probe).run m) =
      (p.momentOf probe m n).after (p.probeTrace probe m n) := by
  have helapsed : ((p.runEach probe).run m).elapsed =
      endOf p.interval (p.delayOf probe m) n := by
    rw [runEach_of_isLast hlast hanswers]
  rw [Moment.after, calls_runEach hlast hanswers, helapsed, Moment.after, momentOf_now,
    past_momentOf, List.range_succ, endOf]
  simp [delayOf, Nat.add_assoc]

section

variable (p probe m) in
/-- No other probe follows one that never answers, or with which the poll ends. -/
def StopsAt (k : ℕ) : Prop :=
  (p.probeTrace probe m k).value = none ∨ p.EndsAt (p.delayOf probe m) (p.answerOf probe m) k

variable (p probe m) in
theorem exists_isLeast_stopsAt : ∃ n, IsLeast {k | p.StopsAt probe m k} n := by
  classical
  obtain ⟨last, hends, -⟩ := p.exists_isLast probe m
  have hexists : ∃ k, p.StopsAt probe m k := ⟨last, .inr hends⟩
  exact ⟨Nat.find hexists, Nat.find_spec hexists, fun k hk => Nat.find_min' hexists hk⟩

theorem not_stopsAt_iff {k : ℕ} :
    ¬ p.StopsAt probe m k ↔
      (∃ answer, (p.probeTrace probe m k).value = some answer ∧ p.GoesOn answer) ∧
        startOf p.interval (p.delayOf probe m) (k + 1) ≤ p.timeout := by
  rw [StopsAt, not_or, not_endsAt_iff, answerOf]
  cases (p.probeTrace probe m k).value <;> simp

variable (p probe m) in
theorem runFrom_tells (k elapsed : ℕ)
    (hend : ∀ answer, ((probe k).run m).value = some answer → p.GoesOn answer →
      p.timeout < elapsed + ((probe k).run m).elapsed + p.interval) :
    let t := p.runFrom probe k elapsed m
    t.calls = ((probe k).run m).calls ∧
      (((probe k).run m).value = none → t.value = none) ∧
      ∀ answer, ((probe k).run m).value = some answer →
        t.elapsed = ((probe k).run m).elapsed ∧
          t.value = some (p.outcome k (elapsed + ((probe k).run m).elapsed) answer) := by
  intro t
  cases hvalue : ((probe k).run m).value with
  | none =>
      rw [show t = _ from runFrom_of_none p probe m k elapsed hvalue]
      exact ⟨rfl, fun _ => rfl, fun _ => nofun⟩
  | some answer =>
      rw [show t = _ from runFrom_of_ends p probe m k elapsed hvalue (hend answer hvalue)]
      refine ⟨?_, nofun, ?_⟩
      · rw [Trace.calls, List.filterMap_append, calls_closingNote, List.append_nil]
        rfl
      · rintro _ ⟨⟩
        exact ⟨rfl, rfl⟩

variable (hleast : IsLeast {k | p.StopsAt probe m k} n)
include hleast

theorem not_stopsAt_of_lt {k : ℕ} (hk : k < n) : ¬ p.StopsAt probe m k :=
  fun hstops => absurd (hleast.2 hstops) (Nat.not_le.mpr hk)

/-- A probe is made exactly if all before it answer and go on and it starts within the timeout. -/
theorem le_iff_of_isLeast_stopsAt (k : ℕ) :
    k ≤ n ↔
      (∀ j < k, ∃ answer, (p.probeTrace probe m j).value = some answer ∧ p.GoesOn answer) ∧
        startOf p.interval (p.delayOf probe m) k ≤ p.timeout := by
  constructor
  · intro hk
    have hgoes : ∀ j < k, ¬ p.StopsAt probe m j :=
      fun j hj => not_stopsAt_of_lt hleast (hj.trans_le hk)
    refine ⟨fun j hj => (not_stopsAt_iff.mp (hgoes j hj)).1, ?_⟩
    cases k with
    | zero => exact Nat.zero_le _
    | succ k => exact (not_stopsAt_iff.mp (hgoes k k.lt_succ_self)).2
  · rintro ⟨hgoes, htime⟩
    by_contra hk
    have hlt : n < k := Nat.lt_of_not_le hk
    have hnext := startOf_mono p.interval (p.delayOf probe m) (Nat.succ_le_of_lt hlt)
    exact not_stopsAt_iff.mpr ⟨hgoes n hlt, hnext.trans htime⟩ hleast.1

/-- What is left of a poll: the calls of all probes that are made, and what becomes of the last. -/
theorem runEach_tells :
    let t := (p.runEach probe).run m
    t.calls = (List.range (n + 1)).flatMap (fun k => (p.probeTrace probe m k).calls) ∧
      ((p.probeTrace probe m n).value = none → t.value = none) ∧
      ∀ answer, (p.probeTrace probe m n).value = some answer →
        t.elapsed = endOf p.interval (p.delayOf probe m) n ∧
          t.value = some (p.outcome n t.elapsed answer) := by
  intro t
  have hrun : t = _ := runEach_eq_followedBy p probe m (p.answerOf probe m) n fun k hk =>
    have hgoes := not_or.mp (not_stopsAt_of_lt hleast hk)
    ⟨value_probeTrace_of_isSome (Option.isSome_iff_ne_none.mpr hgoes.1), hgoes.2⟩
  have hend : ∀ answer, (p.probeTrace probe m n).value = some answer → p.GoesOn answer →
      p.timeout < endOf p.interval (p.delayOf probe m) n + p.interval := by
    intro answer hanswer hgo
    by_contra htime
    exact not_stopsAt_iff.mpr ⟨⟨answer, hanswer, hgo⟩, Nat.le_of_not_lt htime⟩ hleast.1
  obtain ⟨hcalls, hnone, hsome⟩ := runFrom_tells p probe (p.momentOf probe m n) n _ hend
  rw [hrun]
  refine ⟨?_, hnone, ?_⟩
  · rw [Trace.calls_followedBy, hcalls, List.range_succ, List.flatMap_append,
      List.flatMap_singleton, Trace.calls]
    simp only [List.filterMap_flatMap, List.filterMap_append, calls_probeEntries,
      calls_ignoredNote, List.append_nil]
    rfl
  · intro answer hanswer
    obtain ⟨helapsed, hvalue⟩ := hsome answer hanswer
    rw [Trace.elapsed_followedBy, Trace.value_followedBy, helapsed]
    exact ⟨rfl, hvalue⟩

end

end NotebookCheck.Poller

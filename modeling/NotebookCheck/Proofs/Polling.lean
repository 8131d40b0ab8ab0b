import Mathlib.Data.Nat.Find
import Mathlib.Order.Bounds.Basic
import NotebookCheck.Poll
import NotebookCheck.Proofs.Work

namespace NotebookCheck.Poller

variable {α : Type}

def startOf (interval : ℕ) (delay : ℕ → ℕ) : ℕ → ℕ
  | 0 => 0
  | k + 1 => startOf interval delay k + delay k + interval

def endOf (interval : ℕ) (delay : ℕ → ℕ) (k : ℕ) : ℕ :=
  startOf interval delay k + delay k

theorem startOf_succ (interval : ℕ) (delay : ℕ → ℕ) (k : ℕ) :
    startOf interval delay (k + 1) = endOf interval delay k + interval := rfl

theorem startOf_mono (interval : ℕ) (delay : ℕ → ℕ) : Monotone (startOf interval delay) := by
  apply monotone_nat_of_le_succ
  intro k
  rw [startOf_succ, endOf]
  omega

theorem mul_interval_le_startOf (interval : ℕ) (delay : ℕ → ℕ) (k : ℕ) :
    k * interval ≤ startOf interval delay k := by
  induction k with
  | zero => simp
  | succ k ih =>
      rw [startOf_succ, endOf, Nat.succ_mul]
      omega

/-- A poll goes on after an answer that is pending or a fault to be ignored. -/
def GoesOn (p : Poller) (answer : Except Fault (Tick α)) : Prop :=
  answer = .ok .pending ∨ ∃ fault, answer = .error fault ∧ fault.kind ∈ p.ignorable

/-- A probe is the last one if it is satisfied, if it fails for good, or if the next one would
start past the timeout. -/
def EndsAt (p : Poller) (delay : ℕ → ℕ) (answer : ℕ → Except Fault (Tick α)) (k : ℕ) : Prop :=
  (∃ a, answer k = .ok (.satisfied a)) ∨
    (∃ fault, answer k = .error fault ∧ fault.kind ∉ p.ignorable) ∨
    p.timeout < endOf p.interval delay k + p.interval

theorem not_endsAt_iff (p : Poller) (delay : ℕ → ℕ) (answer : ℕ → Except Fault (Tick α))
    (k : ℕ) :
    ¬ p.EndsAt delay answer k ↔
      p.GoesOn (answer k) ∧ startOf p.interval delay (k + 1) ≤ p.timeout := by
  rw [startOf_succ]
  unfold EndsAt GoesOn
  cases h : answer k with
  | error fault => simp
  | ok tick => cases tick <;> simp

theorem timeout_lt_of_endsAt {p : Poller} {delay : ℕ → ℕ} {answer : ℕ → Except Fault (Tick α)}
    {k : ℕ} (hend : p.EndsAt delay answer k) (hgo : p.GoesOn (answer k)) :
    p.timeout < endOf p.interval delay k + p.interval := by
  by_contra htime
  exact (not_endsAt_iff p delay answer k).mpr ⟨hgo, Nat.le_of_not_lt htime⟩ hend

theorem exists_endsAt (p : Poller) (delay : ℕ → ℕ) (answer : ℕ → Except Fault (Tick α)) :
    ∃ k, p.EndsAt delay answer k := by
  by_contra hnone
  push Not at hnone
  -- Each probe adds an interval, so the one after as many as the timeout starts past it.
  have hstart := ((not_endsAt_iff p delay answer p.timeout).mp (hnone p.timeout)).2
  have hlate := mul_interval_le_startOf p.interval delay (p.timeout + 1)
  have hinterval := Nat.le_mul_of_pos_right (p.timeout + 1) p.interval_pos
  omega

/-- The fault of a poll that ran out of time at the end of its probe with the given number. -/
def timeoutFault (p : Poller) (n ended : ℕ) : Fault :=
  .timeout p.operation ended p.timeout (min (n + 1) maxAttempts)

def outcome (p : Poller) (n ended : ℕ) : Except Fault (Tick α) → Except Fault α
  | .ok (.satisfied a) => .ok a
  | .ok .pending => .error (p.timeoutFault n ended)
  | .error fault =>
      if fault.kind ∈ p.ignorable then .error (p.timeoutFault n ended) else .error fault

def ignoredNote (p : Poller) (k : ℕ) : Except Fault (Tick α) → List Entry
  | .ok _ => []
  | .error fault => [.event (p.ignoredEvent (min (k + 1) maxAttempts) fault)]

def timeoutNote (p : Poller) (n : ℕ) : List Entry :=
  [.count (.pollTimeouts p.operation), .event (p.timeoutEvent (min (n + 1) maxAttempts))]

def closingNote (p : Poller) (n ended : ℕ) : Except Fault (Tick α) → List Entry
  | .ok (.satisfied _) => [.event (p.satisfiedEvent (min (n + 1) maxAttempts) ended)]
  | .ok .pending => p.timeoutNote n
  | .error fault =>
      if fault.kind ∈ p.ignorable then
        .event (p.ignoredEvent (min (n + 1) maxAttempts) fault) :: p.timeoutNote n
      else []

section Traces

variable (p : Poller) (k : ℕ) (t : Trace (Except Fault (Tick α)))
  (answer : Except Fault (Tick α))

def stalled : Trace (Except Fault α) :=
  ⟨none, t.elapsed, .count (.pollAttempts p.operation) :: t.entries⟩

def closed (elapsed : ℕ) : Trace (Except Fault α) :=
  ⟨some (p.outcome k (elapsed + t.elapsed) answer), t.elapsed,
    .count (.pollAttempts p.operation) :: t.entries ++
      p.closingNote k (elapsed + t.elapsed) answer⟩

/-- What a poll leaves of a probe after which it goes on, up to the start of the next one. -/
def passed : Trace Unit :=
  ⟨some (), t.elapsed + p.interval,
    .count (.pollAttempts p.operation) :: t.entries ++ p.ignoredNote k answer⟩

theorem calls_ignoredNote : (p.ignoredNote k answer).filterMap Entry.call? = [] := by
  cases answer <;> rfl

theorem calls_closingNote (ended : ℕ) :
    (p.closingNote k ended answer).filterMap Entry.call? = [] := by
  unfold closingNote
  split
  · rfl
  · rfl
  · split <;> rfl

theorem calls_closed (elapsed : ℕ) : (p.closed k t answer elapsed).calls = t.calls := by
  rw [Trace.calls, closed, List.filterMap_append, calls_closingNote, List.append_nil]
  rfl

theorem calls_passed : (p.passed k t answer).calls = t.calls := by
  rw [Trace.calls, passed, List.filterMap_append, calls_ignoredNote, List.append_nil]
  rfl

theorem after_passed (m : Moment) :
    m.after (p.passed k t answer) = { m.after t with now := m.now + t.elapsed + p.interval } := by
  rw [Moment.after, calls_passed]
  simp [passed, Moment.after, Nat.add_assoc]

end Traces

section Probes

variable (p : Poller) (probe : ℕ → Attempt (Tick α)) (m : Moment)

def momentOf : ℕ → Moment
  | 0 => m
  | k + 1 =>
      let t := (probe k).run (momentOf k)
      { (momentOf k).after t with now := (momentOf k).now + t.elapsed + p.interval }

def probeTrace (k : ℕ) : Trace (Except Fault (Tick α)) :=
  (probe k).run (p.momentOf probe m k)

def delayOf (k : ℕ) : ℕ := (p.probeTrace probe m k).elapsed

def probeEntries (k : ℕ) : List Entry :=
  .count (.pollAttempts p.operation) :: (p.probeTrace probe m k).entries

theorem momentOf_now (k : ℕ) :
    (p.momentOf probe m k).now = m.now + startOf p.interval (p.delayOf probe m) k := by
  induction k with
  | zero => rfl
  | succ k ih =>
      rw [startOf_succ, endOf]
      simp only [momentOf, ih, delayOf, probeTrace]
      omega

theorem runFrom_of_none (k elapsed : ℕ) (h : ((probe k).run m).value = none) :
    p.runFrom probe k elapsed m =
      ⟨none, ((probe k).run m).elapsed,
        .count (.pollAttempts p.operation) :: ((probe k).run m).entries⟩ := by
  rw [runFrom]
  simp only [h]

/-- A probe after which the poll goes on is followed by the rest of the poll. -/
theorem runFrom_of_goesOn (k elapsed : ℕ) {answer : Except Fault (Tick α)}
    (hanswer : ((probe k).run m).value = some answer) (hgo : p.GoesOn answer)
    (htime : elapsed + ((probe k).run m).elapsed + p.interval ≤ p.timeout) :
    p.runFrom probe k elapsed m =
      (Trace.mk (some ()) (((probe k).run m).elapsed + p.interval)
        (.count (.pollAttempts p.operation) :: ((probe k).run m).entries ++
          p.ignoredNote k answer)).followedBy
        (p.runFrom probe (k + 1) (elapsed + ((probe k).run m).elapsed + p.interval)
          { m.after ((probe k).run m) with
            now := m.now + ((probe k).run m).elapsed + p.interval }) := by
  rw [runFrom]
  rcases hgo with rfl | ⟨fault, rfl, hkind⟩
  · simp only [hanswer, verdict, htime, dite_true]
    simp [Trace.followedBy, ignoredNote]
  · simp only [hanswer, verdict, hkind, if_true, htime, dite_true]
    simp [Trace.followedBy, ignoredNote]

/-- A probe after which the poll does not go on, or not in time, is the last one. -/
theorem runFrom_of_ends (k elapsed : ℕ) {answer : Except Fault (Tick α)}
    (hanswer : ((probe k).run m).value = some answer)
    (hend : p.GoesOn answer →
      p.timeout < elapsed + ((probe k).run m).elapsed + p.interval) :
    p.runFrom probe k elapsed m =
      ⟨some (p.outcome k (elapsed + ((probe k).run m).elapsed) answer),
        ((probe k).run m).elapsed,
        .count (.pollAttempts p.operation) :: ((probe k).run m).entries ++
          p.closingNote k (elapsed + ((probe k).run m).elapsed) answer⟩ := by
  rw [runFrom]
  cases answer with
  | ok tick =>
      cases tick with
      | satisfied a => simp only [hanswer, verdict]; rfl
      | pending =>
          have hlate := Nat.not_le.mpr (hend (.inl rfl))
          simp only [hanswer, verdict, hlate, dite_false]
          simp [outcome, closingNote, timeoutNote, timeoutFault]
  | error fault =>
      by_cases hkind : fault.kind ∈ p.ignorable
      · have hlate := Nat.not_le.mpr (hend (.inr ⟨fault, rfl, hkind⟩))
        simp only [hanswer, verdict, hkind, if_true, hlate, dite_false]
        simp [outcome, closingNote, timeoutNote, timeoutFault, hkind]
      · simp only [hanswer, verdict, hkind, if_false]
        simp [outcome, closingNote, hkind]

/-- What holds of a poll whose first probe never answers, of one that ends with it, and of one that
goes on if it holds of the rest, holds of all polls. -/
theorem runFrom_induction {motive : ℕ → ℕ → Moment → Trace (Except Fault α) → Prop}
    (stalled : ∀ k elapsed m, ((probe k).run m).value = none →
      motive k elapsed m (p.stalled ((probe k).run m)))
    (closed : ∀ k elapsed m answer, ((probe k).run m).value = some answer →
      motive k elapsed m (p.closed k ((probe k).run m) answer elapsed))
    (passed : ∀ k elapsed m answer rest, ((probe k).run m).value = some answer →
      elapsed + ((probe k).run m).elapsed + p.interval ≤ p.timeout →
      motive (k + 1) (elapsed + ((probe k).run m).elapsed + p.interval)
        (m.after (p.passed k ((probe k).run m) answer)) rest →
      motive k elapsed m ((p.passed k ((probe k).run m) answer).followedBy rest))
    (k elapsed : ℕ) : motive k elapsed m (p.runFrom probe k elapsed m) := by
  -- A probe after which the poll goes on leaves less time for the rest.
  induction hleft : p.timeout - elapsed using Nat.strong_induction_on
    generalizing k elapsed m with
  | _ left ih =>
      cases hvalue : ((probe k).run m).value with
      | none =>
          rw [runFrom_of_none p probe m k elapsed hvalue]
          exact stalled k elapsed m hvalue
      | some answer =>
          by_cases hgoes : p.GoesOn answer ∧
              elapsed + ((probe k).run m).elapsed + p.interval ≤ p.timeout
          · have hinterval := p.interval_pos
            have hless : p.timeout - (elapsed + ((probe k).run m).elapsed + p.interval) <
                left := by
              omega
            rw [runFrom_of_goesOn p probe m k elapsed hvalue hgoes.1 hgoes.2, ← after_passed]
            exact passed k elapsed m answer _ hvalue hgoes.2 (ih _ hless _ (k + 1) _ rfl)
          · rw [runFrom_of_ends p probe m k elapsed hvalue fun hgo =>
              Nat.lt_of_not_le fun htime => hgoes ⟨hgo, htime⟩]
            exact closed k elapsed m answer hvalue

/-- While probes go on in time, the poll is those probes and then the rest of it. -/
theorem runEach_eq_followedBy (answer : ℕ → Except Fault (Tick α)) (n : ℕ)
    (h : ∀ k < n, (p.probeTrace probe m k).value = some (answer k) ∧
      ¬ p.EndsAt (p.delayOf probe m) answer k) :
    (p.runEach probe).run m =
      (Trace.mk (some ()) (startOf p.interval (p.delayOf probe m) n)
        ((List.range n).flatMap fun k =>
          p.probeEntries probe m k ++ p.ignoredNote k (answer k))).followedBy
        (p.runFrom probe n (startOf p.interval (p.delayOf probe m) n)
          (p.momentOf probe m n)) := by
  induction n with
  | zero =>
      simp only [startOf, List.range_zero, List.flatMap_nil, Trace.followedBy, Nat.zero_add,
        List.nil_append]
      rfl
  | succ n ih =>
      obtain ⟨hanswer, hgoes⟩ := h n (Nat.lt_succ_self n)
      obtain ⟨hgo, htime⟩ := (not_endsAt_iff p _ answer n).mp hgoes
      rw [ih fun k hk => h k (Nat.lt_succ_of_lt hk)]
      rw [runFrom_of_goesOn p probe _ n _ hanswer hgo htime, ← Trace.followedBy_assoc]
      congr 1
      simp [Trace.followedBy, List.range_succ, startOf, delayOf, probeTrace, probeEntries,
        Nat.add_assoc]

end Probes

theorem le_iff_of_isLeast_endsAt {p : Poller} {delay : ℕ → ℕ}
    {answer : ℕ → Except Fault (Tick α)} {n : ℕ}
    (hleast : IsLeast {k | p.EndsAt delay answer k} n) (k : ℕ) :
    k ≤ n ↔ (∀ j < k, p.GoesOn (answer j)) ∧ startOf p.interval delay k ≤ p.timeout := by
  have hgoes : ∀ j < n, ¬ p.EndsAt delay answer j := by
    intro j hj hend
    exact absurd (hleast.2 hend) (Nat.not_le.mpr hj)
  constructor
  · intro hk
    refine ⟨fun j hj => ((not_endsAt_iff p delay answer j).mp (hgoes j (by omega))).1, ?_⟩
    cases k with
    | zero => exact Nat.zero_le _
    | succ k => exact ((not_endsAt_iff p delay answer k).mp (hgoes k hk)).2
  · rintro ⟨hgo, hstart⟩
    by_contra hk
    have hnext := startOf_mono p.interval delay (Nat.succ_le_of_lt (Nat.lt_of_not_le hk))
    apply (not_endsAt_iff p delay answer n).mpr _ hleast.1
    exact ⟨hgo n (Nat.lt_of_not_le hk), hnext.trans hstart⟩

/-- The law of polling, for any delays and answers of the probes that are made.  The last probe is
the first one that is satisfied, fails for good, or ends too late for another one.  A probe is made
exactly if all before it go on and it would start no later than the timeout; so there is always a
first one, none starts past the timeout, and one may start right at it. -/
theorem runEach_of_answers (p : Poller) (probe : ℕ → Attempt (Tick α)) (m : Moment)
    (delay : ℕ → ℕ) (answer : ℕ → Except Fault (Tick α))
    (hdelay : ∀ k, (p.probeTrace probe m k).elapsed = delay k)
    (hanswer : ∀ k, (∀ j < k, ¬ p.EndsAt delay answer j) →
      (p.probeTrace probe m k).value = some (answer k)) :
    ∃ n, IsLeast {k | p.EndsAt delay answer k} n ∧
      (p.runEach probe).run m =
        ⟨some (p.outcome n (endOf p.interval delay n) (answer n)),
          endOf p.interval delay n,
          ((List.range n).flatMap fun k =>
            p.probeEntries probe m k ++ p.ignoredNote k (answer k)) ++
          (p.probeEntries probe m n ++
            p.closingNote n (endOf p.interval delay n) (answer n))⟩ ∧
      (∀ k, (p.momentOf probe m k).now = m.now + startOf p.interval delay k) ∧
      ∀ k, k ≤ n ↔
        (∀ j < k, p.GoesOn (answer j)) ∧ startOf p.interval delay k ≤ p.timeout := by
  classical
  obtain rfl : p.delayOf probe m = delay := funext hdelay
  have hexists := exists_endsAt p (p.delayOf probe m) answer
  have hleast : IsLeast {k | p.EndsAt (p.delayOf probe m) answer k} (Nat.find hexists) :=
    ⟨Nat.find_spec hexists, fun k hk => Nat.find_min' hexists hk⟩
  refine ⟨Nat.find hexists, hleast, ?_, momentOf_now p probe m,
    le_iff_of_isLeast_endsAt hleast⟩
  have hmade : ∀ k ≤ Nat.find hexists, (p.probeTrace probe m k).value = some (answer k) :=
    fun k hk => hanswer k fun j hj => Nat.find_min hexists (hj.trans_le hk)
  have hend : p.GoesOn (answer (Nat.find hexists)) →
      p.timeout < endOf p.interval (p.delayOf probe m) (Nat.find hexists) + p.interval := by
    intro hgo
    by_contra htime
    exact (not_endsAt_iff p _ answer _).mpr ⟨hgo, Nat.le_of_not_lt htime⟩ hleast.1
  rw [runEach_eq_followedBy p probe m answer (Nat.find hexists)
    fun k hk => ⟨hmade k hk.le, Nat.find_min hexists hk⟩]
  rw [runFrom_of_ends p probe _ _ _ (hmade _ le_rfl) hend]
  rfl

/-- A success that comes late, of a probe that starts right at the timeout, is still one. -/
theorem runEach_of_late_success :
    let p : Poller := ⟨"sample", 5, 10, [.api], by decide, by decide⟩
    let t := (p.runEach fun k => Attempt.ofWork fun _ =>
      ⟨some (if k = 2 then .ok (.satisfied 7) else .error (.api "busy")),
        if k = 2 then 9 else 0, []⟩).run ⟨0, []⟩
    t.value = some (.ok 7) ∧ t.elapsed = 19 := by
  intro p t
  obtain ⟨n, hleast, hrun, -, hmade⟩ := runEach_of_answers p
    (fun k => Attempt.ofWork fun _ =>
      ⟨some (if k = 2 then .ok (.satisfied 7) else .error (.api "busy")),
        if k = 2 then 9 else 0, []⟩) ⟨0, []⟩
    (fun k => if k = 2 then 9 else 0)
    (fun k => if k = 2 then .ok (.satisfied 7) else .error (.api "busy"))
    (fun _ => rfl) (fun _ _ => rfl)
  have hgo : ∀ j < 2, p.GoesOn (α := ℕ)
      (if j = 2 then .ok (.satisfied 7) else .error (.api "busy")) := by
    intro j hj
    rw [if_neg (by omega)]
    exact .inr ⟨_, rfl, by decide⟩
  have hn : n = 2 :=
    le_antisymm (hleast.2 (.inl ⟨7, rfl⟩)) ((hmade 2).mpr ⟨hgo, by decide⟩)
  subst hn
  exact ⟨congrArg Trace.value hrun, congrArg Trace.elapsed hrun⟩

end NotebookCheck.Poller

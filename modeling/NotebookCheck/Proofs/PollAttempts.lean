import NotebookCheck.Proofs.Answered
import NotebookCheck.Proofs.Records

namespace NotebookCheck

/-- An event tells a number of attempts at an operation. -/
def Event.Tells (e : Event) (operation : String) (attempts : ℕ) : Prop :=
  ("operation", .text operation) ∈ e.fields ∧
    (("attempts", .count attempts) ∈ e.fields ∨ ("attempt", .count attempts) ∈ e.fields)

theorem Event.IsPlain.not_tells {e : Event} (h : e.IsPlain) (operation : String) (attempts : ℕ) :
    ¬ e.Tells operation attempts :=
  fun htells => h _ htells.1 rfl

/-- Each event tells exactly how many attempts at an operation have been counted before it, those
that were made earlier included. -/
def TellsExactly (operation : String) (earlier : ℕ) (entries : List Entry) : Prop :=
  ∀ before e after attempts, entries = before ++ .event e :: after → e.Tells operation attempts →
    attempts = earlier + before.count (.count (.pollAttempts operation))

section

variable {operation : String} {earlier : ℕ}

theorem tellsExactly_cons_iff {entry : Entry} {rest : List Entry} :
    TellsExactly operation earlier (entry :: rest) ↔
      (∀ e attempts, entry = .event e → e.Tells operation attempts → attempts = earlier) ∧
        TellsExactly operation
          (earlier + [entry].count (.count (.pollAttempts operation))) rest := by
  constructor
  · intro h
    refine ⟨?_, ?_⟩
    · rintro e attempts rfl htells
      exact h [] e rest attempts rfl htells
    · rintro before e after attempts rfl htells
      have htold := h (entry :: before) e after attempts rfl htells
      rw [← List.singleton_append, List.count_append, ← Nat.add_assoc] at htold
      exact htold
  · rintro ⟨hfirst, hrest⟩ before e after attempts h htells
    cases before with
    | nil =>
        cases h
        exact hfirst e attempts rfl htells
    | cons first before =>
        cases h
        rw [← List.singleton_append, List.count_append, ← Nat.add_assoc]
        exact hrest before e after attempts rfl htells

theorem TellsExactly.append {first second : List Entry}
    (hfirst : TellsExactly operation earlier first)
    (hsecond : TellsExactly operation
      (earlier + first.count (.count (.pollAttempts operation))) second) :
    TellsExactly operation earlier (first ++ second) := by
  induction first generalizing earlier with
  | nil => exact hsecond
  | cons entry rest ih =>
      rw [tellsExactly_cons_iff] at hfirst
      rw [← List.singleton_append, List.count_append, ← Nat.add_assoc] at hsecond
      exact tellsExactly_cons_iff.mpr ⟨hfirst.1, ih hfirst.2 hsecond⟩

theorem tellsExactly_of_forall {entries : List Entry}
    (h : ∀ e, .event e ∈ entries → ∀ attempts, ¬ e.Tells operation attempts) :
    TellsExactly operation earlier entries := by
  rintro before e after attempts rfl htells
  exact absurd htells (h e (by simp) attempts)

end

namespace Poller

variable {α : Type} (p : Poller)

/-- An entry that a poll makes after a number of attempts, other than the count of one. -/
def IsNoteAfter (attempts : ℕ) : Entry → Prop
  | .event e => ∀ operation told, e.Tells operation told →
      operation = p.operation ∧ told = attempts
  | .count (.pollAttempts _) => False
  | .count _ | .call _ | .sample _ _ | .connect _ | .print _ => True

theorem isNoteAfter_of_mem_ignoredNote (k : ℕ) (answer : Except Fault (Tick α)) :
    ∀ entry ∈ p.ignoredNote k answer, p.IsNoteAfter (min (k + 1) maxAttempts) entry := by
  intro entry hentry
  cases answer with
  | ok tick => cases hentry
  | error fault =>
      rw [List.mem_singleton.mp hentry]
      rintro operation told ⟨hoperation, htold⟩
      simp_all [ignoredEvent]

theorem isNoteAfter_of_mem_timeoutNote (k : ℕ) :
    ∀ entry ∈ p.timeoutNote k, p.IsNoteAfter (min (k + 1) maxAttempts) entry := by
  intro entry hentry
  simp only [timeoutNote, List.mem_cons, List.not_mem_nil, or_false] at hentry
  rcases hentry with rfl | rfl
  · trivial
  · rintro operation told ⟨hoperation, htold⟩
    simp_all [timeoutEvent]

theorem isNoteAfter_of_mem_closingNote (k ended : ℕ) (answer : Except Fault (Tick α)) :
    ∀ entry ∈ p.closingNote k ended answer, p.IsNoteAfter (min (k + 1) maxAttempts) entry := by
  intro entry hentry
  match answer with
  | .ok (.satisfied a) =>
      rw [List.mem_singleton.mp hentry]
      rintro operation told ⟨hoperation, htold⟩
      simp_all [satisfiedEvent]
  | .ok .pending => exact p.isNoteAfter_of_mem_timeoutNote k entry hentry
  | .error fault =>
      rw [closingNote] at hentry
      split at hentry
      · rcases List.mem_cons.mp hentry with rfl | htimeout
        · exact p.isNoteAfter_of_mem_ignoredNote (α := α) k (.error fault) _
            (List.mem_singleton_self _)
        · exact p.isNoteAfter_of_mem_timeoutNote k entry htimeout
      · cases hentry

variable {p}

theorem count_of_notes {attempts : ℕ} {notes : List Entry}
    (h : ∀ entry ∈ notes, p.IsNoteAfter attempts entry) (operation : String) :
    notes.count (.count (.pollAttempts operation)) = 0 :=
  List.count_eq_zero.mpr fun hentry => h _ hentry

theorem tellsExactly_of_notes {attempts : ℕ} {notes : List Entry}
    (h : ∀ entry ∈ notes, p.IsNoteAfter attempts entry) {operation : String} {earlier : ℕ}
    (hearlier : operation = p.operation → earlier = attempts) :
    TellsExactly operation earlier notes := by
  rintro before e after told rfl htells
  obtain ⟨hoperation, htold⟩ := h (.event e) (by simp) operation told htells
  rw [count_of_notes (fun entry hentry => h entry (List.mem_append_left _ hentry)), htold,
    hearlier hoperation, Nat.add_zero]

/-- A probe does nothing but make requests, and its faults are answers of the target. -/
structure IsRequest (target : Target) (w : Attempt α) : Prop where
  calls : ∀ m, ∀ entry ∈ (w.run m).entries, ∃ call, entry = .call call
  fault : ∀ m fault, (w.run m).value = some (.error fault) →
    ∃ asked ∈ (w.run m).asked m, target.AnswersWith asked fault

section

variable {target : Target} {w : Attempt α} (hw : IsRequest target w) (m : Moment)
include hw

theorem IsRequest.tellsExactly (operation : String) (earlier : ℕ) :
    TellsExactly operation earlier
      (.count (.pollAttempts p.operation) :: (w.run m).entries) := by
  refine tellsExactly_of_forall fun e hentry => ?_
  rcases List.mem_cons.mp hentry with hcount | hprobe
  · cases hcount
  · obtain ⟨call, hcall⟩ := hw.calls m _ hprobe
    cases hcall

theorem IsRequest.count_eq (operation : String) :
    (.count (.pollAttempts p.operation) :: (w.run m).entries).count
        (.count (.pollAttempts operation)) =
      if operation = p.operation then 1 else 0 := by
  have hnone : (w.run m).entries.count (.count (.pollAttempts operation)) = 0 := by
    refine List.count_eq_zero.mpr fun hentry => ?_
    obtain ⟨call, hcall⟩ := hw.calls m _ hentry
    cases hcall
  rw [List.count_cons, hnone]
  by_cases hoperation : operation = p.operation
  · simp [hoperation]
  · simp [hoperation, Ne.symm hoperation]

end

/-- A poll from its probe with the given number on makes no more probes than its bounds allow.  Its
events tell how many there were so far, and its fault, if it is not an answer of the target, how
many there were at all. -/
structure IsExact (p : Poller) (target : Target) (k : ℕ) (m : Moment)
    (t : Trace (Except Fault α)) : Prop where
  attempts_le : k + t.counted (.pollAttempts p.operation) ≤ p.timeout / p.interval + 1
  tells : ∀ operation earlier, (operation = p.operation → earlier = k) →
    TellsExactly operation earlier t.entries
  fault : ∀ fault, t.value = some (.error fault) →
    (∃ asked ∈ t.asked m, target.AnswersWith asked fault) ∨
      ∃ ended, fault = .timeout p.operation ended p.timeout
        (k + t.counted (.pollAttempts p.operation))

theorem outcome_eq_error_iff {n ended : ℕ} {answer : Except Fault (Tick α)} {fault : Fault} :
    p.outcome n ended answer = .error fault ↔
      (answer = .error fault ∧ fault.kind ∉ p.ignorable) ∨
        (p.GoesOn answer ∧ p.timeoutFault n ended = fault) := by
  match answer with
  | .ok (.satisfied a) => simp [outcome, GoesOn]
  | .ok .pending => simp [outcome, GoesOn]
  | .error found =>
      by_cases hkind : found.kind ∈ p.ignorable
      · rw [outcome, if_pos hkind]
        constructor
        · intro h
          exact .inr ⟨.inr ⟨found, rfl, hkind⟩, Except.error.inj h⟩
        · rintro (⟨⟨⟩, hfatal⟩ | ⟨-, rfl⟩)
          · exact absurd hkind hfatal
          · rfl
      · rw [outcome, if_neg hkind]
        constructor
        · rintro ⟨⟩
          exact .inl ⟨rfl, hkind⟩
        · rintro (⟨⟨⟩, -⟩ | ⟨⟨⟨⟩⟩ | ⟨_, ⟨⟩, hignorable⟩, -⟩)
          · rfl
          · exact absurd hignorable hkind

section

variable {target : Target} {probe : ℕ → Attempt (Tick α)}
  (hprobe : ∀ k, IsRequest target (probe k)) {m : Moment} {k elapsed : ℕ}
  {answer : Except Fault (Tick α)}
include hprobe

theorem counted_probed {notes : List Entry} {attempts : ℕ}
    (hnotes : ∀ entry ∈ notes, p.IsNoteAfter attempts entry) (operation : String) :
    (.count (.pollAttempts p.operation) :: ((probe k).run m).entries ++ notes).count
        (.count (.pollAttempts operation)) =
      if operation = p.operation then 1 else 0 := by
  rw [List.count_append, (hprobe k).count_eq, count_of_notes hnotes, Nat.add_zero]

variable (hk : k ≤ p.timeout / p.interval)
include hk

theorem isExact_stalled : p.IsExact target k m (p.stalled ((probe k).run m)) := by
  refine ⟨?_, fun operation earlier _ => (hprobe k).tellsExactly m operation earlier, nofun⟩
  rw [Trace.counted, stalled, (hprobe k).count_eq, if_pos rfl]
  exact Nat.succ_le_succ hk

variable (hbounds : p.timeout / p.interval < maxAttempts)
include hbounds

theorem tellsExactly_probed {notes : List Entry}
    (hnotes : ∀ entry ∈ notes, p.IsNoteAfter (min (k + 1) maxAttempts) entry)
    {operation : String} {earlier : ℕ} (hearlier : operation = p.operation → earlier = k) :
    TellsExactly operation earlier
      (.count (.pollAttempts p.operation) :: ((probe k).run m).entries ++ notes) := by
  refine ((hprobe k).tellsExactly m operation earlier).append ?_
  refine tellsExactly_of_notes hnotes fun hoperation => ?_
  rw [(hprobe k).count_eq, if_pos hoperation, hearlier hoperation,
    Nat.min_eq_left (hk.trans_lt hbounds)]

theorem isExact_closed (hvalue : ((probe k).run m).value = some answer) :
    p.IsExact target k m (p.closed k ((probe k).run m) answer elapsed) := by
  have hnotes := p.isNoteAfter_of_mem_closingNote k
    (elapsed + ((probe k).run m).elapsed) answer
  have hcounted : (p.closed k ((probe k).run m) answer elapsed).counted
      (.pollAttempts p.operation) = 1 := by
    rw [Trace.counted, closed, counted_probed hprobe hnotes, if_pos rfl]
  refine ⟨?_, fun operation earlier hearlier => ?_, fun fault hfault => ?_⟩
  · rw [hcounted]
    exact Nat.succ_le_succ hk
  · exact tellsExactly_probed hprobe hk hbounds hnotes hearlier
  · rcases outcome_eq_error_iff.mp (Option.some_inj.mp hfault) with ⟨rfl, -⟩ | ⟨-, rfl⟩
    · left
      rw [Trace.asked_eq_of_calls_eq (p.calls_closed k ((probe k).run m) _ elapsed)]
      exact (hprobe k).fault m fault hvalue
    · right
      rw [timeoutFault, hcounted, Nat.min_eq_left (hk.trans_lt hbounds)]
      exact ⟨_, rfl⟩

theorem isExact_passed {rest : Trace (Except Fault α)}
    (hrest : p.IsExact target (k + 1) (m.after (p.passed k ((probe k).run m) answer)) rest) :
    p.IsExact target k m ((p.passed k ((probe k).run m) answer).followedBy rest) := by
  have hnotes := p.isNoteAfter_of_mem_ignoredNote k answer
  have hcounted : k + ((p.passed k ((probe k).run m) answer).followedBy rest).counted
      (.pollAttempts p.operation) = k + 1 + rest.counted (.pollAttempts p.operation) := by
    rw [Trace.counted_followedBy, Trace.counted, passed, counted_probed hprobe hnotes, if_pos rfl,
      Nat.add_assoc]
  refine ⟨?_, fun operation earlier hearlier => ?_, fun fault hfault => ?_⟩
  · rw [hcounted]
    exact hrest.attempts_le
  · refine (tellsExactly_probed hprobe hk hbounds hnotes hearlier).append ?_
    refine hrest.tells operation _ fun hoperation => ?_
    rw [counted_probed hprobe hnotes, if_pos hoperation, hearlier hoperation]
  · rw [hcounted, Trace.asked_followedBy]
    rcases hrest.fault fault hfault with ⟨asked, hasked, hfault⟩ | htimeout
    · exact .inl ⟨asked, List.mem_append_right _ hasked, hfault⟩
    · exact .inr htimeout

end

theorem counted_of_ne {target : Target} {probe : ℕ → Attempt (Tick α)}
    (hprobe : ∀ k, IsRequest target (probe k)) {operation : String} (h : operation ≠ p.operation)
    (m : Moment) : ((p.runEach probe).run m).counted (.pollAttempts operation) = 0 := by
  refine List.count_eq_zero.mpr fun hentry =>
    p.records_runEach (P := (· ≠ .count (.pollAttempts operation))) ?_ ?_ m _ hentry rfl
  · rintro _ hnote rfl
    exact h hnote
  · rintro k m' _ hentry rfl
    obtain ⟨call, hcall⟩ := (hprobe k).calls m' _ hentry
    cases hcall

theorem isExact_runEach {target : Target} {probe : ℕ → Attempt (Tick α)}
    (hprobe : ∀ k, IsRequest target (probe k)) (hbounds : p.timeout / p.interval < maxAttempts)
    (m : Moment) : p.IsExact target 0 m ((p.runEach probe).run m) := by
  -- No probe starts before as many intervals have passed as there have been others.
  have hinduction := runFrom_induction p probe m (motive := fun k elapsed m t =>
    k * p.interval ≤ elapsed → elapsed ≤ p.timeout → p.IsExact target k m t)
    ?stalled ?closed ?passed 0 0
  · exact hinduction (Nat.zero_mul _).le (Nat.zero_le _)
  case stalled =>
    intro k elapsed m' _ hstart htime
    exact isExact_stalled hprobe
      ((Nat.le_div_iff_mul_le p.interval_pos).mpr (hstart.trans htime))
  case closed =>
    intro k elapsed m' answer hvalue hstart htime
    exact isExact_closed hprobe
      ((Nat.le_div_iff_mul_le p.interval_pos).mpr (hstart.trans htime)) hbounds hvalue
  case passed =>
    intro k elapsed m' answer rest _ hnext hrest hstart htime
    refine isExact_passed hprobe
      ((Nat.le_div_iff_mul_le p.interval_pos).mpr (hstart.trans htime)) hbounds
      (hrest ?_ hnext)
    rw [Nat.succ_mul]
    omega

end Poller

end NotebookCheck

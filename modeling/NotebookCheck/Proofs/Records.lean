import NotebookCheck.Proofs.Polling
import NotebookCheck.Proofs.Reply

namespace NotebookCheck

variable {α β : Type}

def Entry.Asks (R : Request → Prop) : Entry → Prop
  | call c => R c.request
  | count _ | sample _ _ | event _ => True
  | connect _ | print _ => False

/-- An event that does not belong to a poll. -/
def Event.IsPlain (e : Event) : Prop := ∀ field ∈ e.fields, field.1 ≠ "operation"

/-- An entry that a poll of an operation makes on its own: one of its counts, or an event. -/
def Entry.IsPollNote (operation : String) : Entry → Prop
  | event _ => True
  | count (.pollAttempts polled) | count (.pollTimeouts polled) => polled = operation
  | count _ | call _ | sample _ _ | connect _ | print _ => False

theorem Entry.IsPollNote.asks {operation : String} {R : Request → Prop} {entry : Entry}
    (h : entry.IsPollNote operation) : entry.Asks R := by
  cases entry with
  | count _ | event _ => trivial
  | call _ | sample _ _ | connect _ | print _ => exact h.elim

namespace Work

/-- All that work puts on record has a property. -/
def Records (P : Entry → Prop) (w : Work α) : Prop :=
  ∀ m, ∀ entry ∈ (w m).entries, P entry

/-- Work that makes requests of some kind and does nothing else outside. -/
abbrev Asks (R : Request → Prop) (w : Work α) : Prop := w.Records (Entry.Asks R)

variable {P : Entry → Prop} {R : Request → Prop}

theorem Records.of_mem_asked {w : Work α} (hw : w.Records P) {m : Moment}
    {asked : Moment × Request} (h : asked ∈ (w m).asked m) :
    P (.call ⟨asked.1.now, asked.2⟩) := by
  have hcall := List.mem_map_of_mem (f := fun asked : Moment × Request =>
    Call.mk asked.1.now asked.2) h
  rw [Trace.map_asked] at hcall
  obtain ⟨entry, hentry, hmade⟩ := List.mem_filterMap.mp hcall
  cases entry with
  | call found =>
      cases hmade
      exact hw m _ hentry
  | count _ | sample _ _ | event _ | connect _ | print _ => cases hmade

theorem Asks.of_mem_calls {w : Work α} (hw : w.Asks R) {m : Moment} {call : Call}
    (h : call ∈ (w m).calls) : R call.request := by
  obtain ⟨entry, hentry, hcall⟩ := List.mem_filterMap.mp h
  have hasks := hw m entry hentry
  cases entry with
  | call found =>
      cases hcall
      exact hasks
  | count _ | sample _ _ | event _ | connect _ | print _ => cases hcall

theorem Records.mono {Q : Entry → Prop} (h : ∀ entry, P entry → Q entry) {w : Work α}
    (hw : w.Records P) : w.Records Q :=
  fun m entry hentry => h entry (hw m entry hentry)

theorem records_pure (a : α) : Records P (pure a : Work α) := by
  intro m entry hentry
  cases hentry

theorem records_bind {w : Work α} {f : α → Work β} (hw : w.Records P)
    (hf : ∀ a, (f a).Records P) : Records P (w >>= f) := by
  intro m entry hentry
  cases hvalue : (w m).value with
  | none =>
      rw [bind_of_none w f m hvalue] at hentry
      exact hw m entry hentry
  | some a =>
      rw [bind_of_value w f m hvalue, Trace.entries_followedBy] at hentry
      rcases List.mem_append.mp hentry with hfirst | hsecond
      · exact hw m entry hfirst
      · exact hf a _ entry hsecond

theorem records_map {w : Work α} (f : α → β) (hw : w.Records P) : Records P (f <$> w) := by
  intro m entry hentry
  rw [map_apply] at hentry
  exact hw m entry hentry

theorem records_timed {w : Work α} (hw : w.Records P) : Records P w.timed := hw

theorem records_record {entry : Entry} (h : P entry) : Records P (record entry) := by
  intro m other hother
  rw [List.mem_singleton.mp hother]
  exact h

theorem records_clock : Records P clock := by
  intro m entry hentry
  cases hentry

theorem records_note {fields : List (String × FieldValue)}
    (hevent : ∀ e : Event, e.IsPlain → P (.event e))
    (hfields : ∀ field ∈ fields, field.1 ≠ "operation") (level : Level) (message : String) :
    Records P (note level message fields) :=
  records_record (hevent _ hfields)

theorem asks_note (level : Level) (message : String) (fields : List (String × FieldValue)) :
    Asks R (note level message fields) :=
  records_record trivial

end Work

namespace Attempt

variable {P : Entry → Prop} {R : Request → Prop}

theorem records_pure (a : α) : Work.Records P (pure a : Attempt α).run := Work.records_pure _

theorem records_ofExcept (r : Except Fault α) : Work.Records P (ofExcept r).run :=
  Work.records_pure r

theorem records_bind {w : Attempt α} {f : α → Attempt β} (hw : Work.Records P w.run)
    (hf : ∀ a, Work.Records P (f a).run) : Work.Records P (w >>= f).run := by
  rw [ExceptT.run_bind]
  refine Work.records_bind hw fun result => ?_
  cases result with
  | error fault => exact Work.records_pure _
  | ok a => exact hf a

theorem records_lift {w : Work α} (hw : w.Records P) :
    Work.Records P (liftM w : Attempt α).run :=
  Work.records_map Except.ok hw

theorem asks_note (level : Level) (message : String) (fields : List (String × FieldValue)) :
    Work.Asks R (liftM (Work.note level message fields) : Attempt Unit).run :=
  records_lift (Work.asks_note level message fields)

end Attempt

namespace Target

variable {P : Entry → Prop} {R : Request → Prop}

theorem records_await {request : Request} (h : ∀ time, P (.call ⟨time, request⟩))
    (reply : Moment → Reply α) : Work.Records P (await request reply).run := by
  intro m entry hentry
  rw [run_await_eq] at hentry
  rw [List.mem_singleton.mp hentry]
  exact h m.now

theorem records_awaitWithin (limit : ℕ) {request : Request} (h : ∀ time, P (.call ⟨time, request⟩))
    (reply : Moment → Reply α) : (awaitWithin limit request reply).Records P := by
  intro m entry hentry
  rw [awaitWithin_apply] at hentry
  rw [List.mem_singleton.mp hentry]
  exact h m.now

theorem asks_await {request : Request} (h : R request) (reply : Moment → Reply α) :
    Work.Asks R (await request reply).run :=
  records_await (fun _ => h) reply

theorem asks_awaitWithin (limit : ℕ) {request : Request} (h : R request)
    (reply : Moment → Reply α) : Work.Asks R (awaitWithin limit request reply) :=
  records_awaitWithin limit (fun _ => h) reply

theorem records_presentSnapshot (t : Target) (h : ∀ time, P (.call ⟨time, .snapshot⟩)) :
    Work.Records P t.presentSnapshot.run := by
  refine Attempt.records_bind (records_await h t.onSnapshot) fun found => ?_
  cases found with
  | none => exact Attempt.records_ofExcept _
  | some snapshot => exact Attempt.records_pure snapshot

theorem asks_presentSnapshot (t : Target) (h : R .snapshot) :
    Work.Asks R t.presentSnapshot.run :=
  records_presentSnapshot t fun _ => h

end Target

namespace Poller

variable {P : Entry → Prop} (p : Poller)

theorem isPollNote_of_mem_ignoredNote (k : ℕ) (answer : Except Fault (Tick α)) :
    ∀ entry ∈ p.ignoredNote k answer, entry.IsPollNote p.operation := by
  intro entry hentry
  cases answer with
  | ok tick => cases hentry
  | error fault =>
      rw [List.mem_singleton.mp hentry]
      trivial

theorem isPollNote_of_mem_timeoutNote (n : ℕ) :
    ∀ entry ∈ p.timeoutNote n, entry.IsPollNote p.operation := by
  intro entry hentry
  simp only [timeoutNote, List.mem_cons, List.not_mem_nil, or_false] at hentry
  rcases hentry with rfl | rfl
  · exact rfl
  · trivial

theorem isPollNote_of_mem_closingNote (n ended : ℕ) (answer : Except Fault (Tick α)) :
    ∀ entry ∈ p.closingNote n ended answer, entry.IsPollNote p.operation := by
  intro entry hentry
  unfold closingNote at hentry
  split at hentry
  · rw [List.mem_singleton.mp hentry]
    trivial
  · exact p.isPollNote_of_mem_timeoutNote n entry hentry
  · split at hentry
    · rcases List.mem_cons.mp hentry with rfl | htimeout
      · trivial
      · exact p.isPollNote_of_mem_timeoutNote n entry htimeout
    · cases hentry

theorem records_runFrom {probe : ℕ → Attempt (Tick α)}
    (hnote : ∀ entry : Entry, entry.IsPollNote p.operation → P entry)
    (hprobe : ∀ k, Work.Records P (probe k).run) (k elapsed : ℕ) :
    Work.Records P (p.runFrom probe k elapsed) := by
  intro m
  have hmade : ∀ j m', ∀ entry ∈ Entry.count (.pollAttempts p.operation) ::
      ((probe j).run m').entries, P entry := by
    intro j m'
    rw [List.forall_mem_cons]
    exact ⟨hnote _ rfl, hprobe j m'⟩
  refine runFrom_induction p probe m
    (motive := fun _ _ _ t => ∀ entry ∈ t.entries, P entry) ?stalled ?closed ?passed k elapsed
  case stalled => exact fun j _ m' _ => hmade j m'
  case closed =>
    intro j since m' answer _ entry hentry
    rcases List.mem_append.mp hentry with hprobed | hclosing
    · exact hmade j m' entry hprobed
    · exact hnote entry (p.isPollNote_of_mem_closingNote j _ answer entry hclosing)
  case passed =>
    intro j since m' answer rest _ _ hrest entry hentry
    rcases List.mem_append.mp hentry with hfirst | hlater
    · rcases List.mem_append.mp hfirst with hprobed | hignored
      · exact hmade j m' entry hprobed
      · exact hnote entry (p.isPollNote_of_mem_ignoredNote j answer entry hignored)
    · exact hrest entry hlater

theorem records_runEach {probe : ℕ → Attempt (Tick α)}
    (hnote : ∀ entry : Entry, entry.IsPollNote p.operation → P entry)
    (hprobe : ∀ k, Work.Records P (probe k).run) : Work.Records P (p.runEach probe).run :=
  p.records_runFrom hnote hprobe 0 0

end Poller

end NotebookCheck

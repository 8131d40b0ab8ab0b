import NotebookCheck.Proofs.PollCourse
import NotebookCheck.Proofs.Requests

/-!
Accounts of what work puts on record.  Entries are balanced by an account if their calls and their
counts explain each other: each command belongs to a poll or to an import, each snapshot to a poll
or to a look at the target, and no more polls run out of time than are made.
-/

namespace NotebookCheck

namespace Entry

def isExecute : Entry → Bool
  | call ⟨_, .execute _ _⟩ => true
  | _ => false

def isSnapshot : Entry → Bool
  | call ⟨_, .snapshot⟩ => true
  | _ => false

def isSample : Entry → Bool
  | sample .importSeconds _ => true
  | _ => false

/-- The entry is of no account: an event, the request of a log, or a count of something else. -/
def IsUncounted : Entry → Prop
  | event _ | connect _ | print _ | call ⟨_, .log _ _⟩ => True
  | count .diagnosticFailures | count (.snippetChecks _) => True
  | call ⟨_, .execute _ _⟩ | call ⟨_, .snapshot⟩ | sample _ _ => False
  | count (.packageImports _) | count (.pollAttempts _) | count (.pollTimeouts _) => False

end Entry

/-- What work has to account for: the operations that it polled, how often it looked at the target
besides, and its imports that did and did not succeed. -/
structure Account where
  polled : List String := []
  looks : ℕ := 0
  imports : Bool → ℕ := fun _ => 0

namespace Account

def add (a b : Account) : Account where
  polled := a.polled ++ b.polled
  looks := a.looks + b.looks
  imports success := a.imports success + b.imports success

def ofPoll (operation : String) : Account := { polled := [operation] }

def ofLook : Account := { looks := 1 }

def ofImport (success : Bool) : Account where
  imports other := if other = success then 1 else 0

@[simp] theorem empty_add (a : Account) : ({} : Account).add a = a := by
  simp [add]

@[simp] theorem add_empty (a : Account) : a.add {} = a := by
  simp [add]

theorem add_looks (polled : List String) (looks : ℕ) :
    ({ polled } : Account).add { looks } = { polled, looks } := by
  simp [add]

theorem add_polled (first second : List String) :
    ({ polled := first } : Account).add { polled := second } = { polled := first ++ second } := by
  simp [add]

/-- The entries are what they should be by an account. -/
structure Balances (a : Account) (entries : List Entry) : Prop where
  executes : entries.countP Entry.isExecute =
    entries.count (.count (.pollAttempts "exec connection")) +
      entries.count (.count (.pollAttempts "snippet execution")) +
      a.imports true + a.imports false
  snapshots : entries.countP Entry.isSnapshot =
    entries.count (.count (.pollAttempts "pod existence")) +
      entries.count (.count (.pollAttempts "pod ready")) + a.looks
  samples : entries.countP Entry.isSample = a.imports true + a.imports false
  imports : ∀ success, entries.count (.count (.packageImports success)) = a.imports success
  timeouts : ∀ operation,
    entries.count (.count (.pollTimeouts operation)) ≤ a.polled.count operation

theorem Balances.append {a b : Account} {first second : List Entry} (ha : a.Balances first)
    (hb : b.Balances second) : (a.add b).Balances (first ++ second) := by
  constructor
  case executes =>
      have hexecutes := ha.executes
      have hexecutes' := hb.executes
      simp only [List.countP_append, List.count_append, add]
      omega
  case snapshots =>
      have hsnapshots := ha.snapshots
      have hsnapshots' := hb.snapshots
      simp only [List.countP_append, List.count_append, add]
      omega
  case samples =>
      have hsamples := ha.samples
      have hsamples' := hb.samples
      simp only [List.countP_append, add]
      omega
  case imports =>
      intro success
      rw [List.count_append, ha.imports, hb.imports]
      rfl
  case timeouts =>
      intro operation
      rw [List.count_append, add, List.count_append]
      exact Nat.add_le_add (ha.timeouts operation) (hb.timeouts operation)

theorem balances_nil : ({} : Account).Balances [] := by
  constructor <;> simp

theorem balances_singleton {entry : Entry} (h : entry.IsUncounted) :
    ({} : Account).Balances [entry] := by
  cases entry with
  | event _ | connect _ | print _ => constructor <;> simp [Entry.isExecute, Entry.isSnapshot,
      Entry.isSample]
  | sample _ _ => exact h.elim
  | call c =>
      obtain ⟨time, request⟩ := c
      cases request with
      | snapshot | execute _ _ => exact h.elim
      | log _ _ => constructor <;> simp [Entry.isExecute, Entry.isSnapshot, Entry.isSample]
  | count c =>
      cases c with
      | packageImports _ | pollAttempts _ | pollTimeouts _ => exact h.elim
      | diagnosticFailures | snippetChecks _ =>
          constructor <;> simp [Entry.isExecute, Entry.isSnapshot, Entry.isSample]

theorem balances_event (e : Event) : ({} : Account).Balances [.event e] :=
  balances_singleton trivial

theorem balances_of_uncounted {entries : List Entry} (h : ∀ entry ∈ entries, entry.IsUncounted) :
    ({} : Account).Balances entries := by
  induction entries with
  | nil => exact balances_nil
  | cons entry rest ih =>
      rw [List.forall_mem_cons] at h
      exact empty_add {} ▸ (balances_singleton h.1).append (ih h.2)

theorem Balances.empty_append {a : Account} {first second : List Entry}
    (h : ({} : Account).Balances first) (ha : a.Balances second) :
    a.Balances (first ++ second) :=
  a.empty_add ▸ h.append ha

theorem Balances.append_uncounted {a : Account} {first second : List Entry}
    (ha : a.Balances first) (h : ∀ entry ∈ second, entry.IsUncounted) :
    a.Balances (first ++ second) :=
  a.add_empty ▸ ha.append (balances_of_uncounted h)

theorem Balances.with_poll {entries : List Entry} (h : ({} : Account).Balances entries)
    (operation : String) : (ofPoll operation).Balances entries :=
  { h with timeouts := fun other => (h.timeouts other).trans (Nat.zero_le _) }

end Account

section

variable {α β : Type} {a : Account} {m : Moment}

theorem Work.balances_bind {w : Work α} {f : α → Work β} (hw : a.Balances (w m).entries)
    (hf : ∀ v, (f v).Records Entry.IsUncounted) : a.Balances ((w >>= f) m).entries := by
  cases hvalue : (w m).value with
  | none =>
      rw [bind_of_none w f m hvalue]
      exact hw
  | some v =>
      rw [bind_of_value w f m hvalue, Trace.entries_followedBy]
      exact hw.append_uncounted (hf v _)

theorem Attempt.balances_bind {w : Attempt α} {f : α → Attempt β}
    (hw : a.Balances (w.run m).entries) (hf : ∀ v, Work.Records Entry.IsUncounted (f v).run) :
    a.Balances ((w >>= f).run m).entries := by
  rw [ExceptT.run_bind]
  refine Work.balances_bind hw fun result => ?_
  cases result with
  | error fault => exact Work.records_pure _
  | ok v => exact hf v

theorem Work.uncounted_note (level : Level) (message : String)
    (fields : List (String × FieldValue)) :
    (note level message fields).Records Entry.IsUncounted :=
  records_record trivial

theorem Attempt.uncounted_note (level : Level) (message : String)
    (fields : List (String × FieldValue)) :
    Work.Records Entry.IsUncounted (liftM (Work.note level message fields) : Attempt Unit).run :=
  records_lift (Work.uncounted_note level message fields)

end

namespace Poller

theorem ofBounds_cases (interval timeout : ℕ) :
    (∀ operation, ∃ message,
      ofBounds operation interval timeout = .error (.validation message)) ∨
    ∀ operation, ∃ p, ofBounds operation interval timeout = .ok p ∧ p.operation = operation := by
  by_cases hinterval : interval = 0
  · exact .inl fun _ => ⟨_, dif_pos hinterval⟩
  · by_cases htimeout : timeout = 0
    · exact .inl fun _ => ⟨_, (dif_neg hinterval).trans (dif_pos htimeout)⟩
    · exact .inr fun operation => ⟨_, ofBounds_of_pos operation (Nat.pos_of_ne_zero hinterval)
        (Nat.pos_of_ne_zero htimeout), rfl⟩

@[simp] theorem operation_ignoring (p : Poller) (kind : FaultKind) :
    (p.ignoring kind).operation = p.operation := by
  unfold ignoring
  split <;> rfl

def polledWith : Except Fault Poller → List String
  | .ok p => [p.operation]
  | .error _ => []

variable {α : Type} (p : Poller) (probe : ℕ → Attempt (Tick α))

/-- A probe and its count are balanced by themselves. -/
def BalancedProbe : Prop :=
  ∀ k m, ({} : Account).Balances
    (.count (.pollAttempts p.operation) :: ((probe k).run m).entries)

theorem uncounted_ignoredNote (k : ℕ) (answer : Except Fault (Tick α)) :
    ∀ entry ∈ p.ignoredNote k answer, entry.IsUncounted := by
  intro entry hentry
  cases answer with
  | ok tick => cases hentry
  | error fault =>
      rw [List.mem_singleton.mp hentry]
      trivial

theorem balances_timeoutNote (n : ℕ) :
    (Account.ofPoll p.operation).Balances (p.timeoutNote n) := by
  constructor
  case timeouts =>
      intro operation
      by_cases hoperation : p.operation = operation <;>
        simp [timeoutNote, Account.ofPoll, hoperation]
  all_goals simp [timeoutNote, Account.ofPoll, Entry.isExecute, Entry.isSnapshot, Entry.isSample]

theorem balances_closingNote (n ended : ℕ) (answer : Except Fault (Tick α)) :
    (Account.ofPoll p.operation).Balances (p.closingNote n ended answer) := by
  unfold closingNote
  split
  · exact (Account.balances_event _).with_poll _
  · exact p.balances_timeoutNote n
  · split
    · exact (Account.balances_event _).empty_append (p.balances_timeoutNote n)
    · exact Account.balances_nil.with_poll _

variable {p probe}

/-- One poll makes up for all that is left of it, whether or not it ever ends. -/
theorem balances_runFrom (hprobe : p.BalancedProbe probe) (k elapsed : ℕ) (m : Moment) :
    (Account.ofPoll p.operation).Balances (p.runFrom probe k elapsed m).entries := by
  refine runFrom_induction p probe m
    (motive := fun _ _ _ t => (Account.ofPoll p.operation).Balances t.entries)
    ?stalled ?closed ?passed k elapsed
  case stalled => exact fun j _ m' _ => (hprobe j m').with_poll _
  case closed =>
    intro j since m' answer _
    exact (hprobe j m').empty_append (p.balances_closingNote j _ answer)
  case passed =>
    intro j since m' answer rest _ _ hrest
    have hfirst := (hprobe j m').append_uncounted (p.uncounted_ignoredNote j answer)
    exact hfirst.empty_append hrest

theorem balances_runEach (hprobe : p.BalancedProbe probe) (m : Moment) :
    (Account.ofPoll p.operation).Balances ((p.runEach probe).run m).entries :=
  balances_runFrom hprobe 0 0 m

end Poller

end NotebookCheck

import NotebookCheck.Proofs.Requests
import NotebookCheck.Proofs.SnippetLimit

namespace NotebookCheck

open Number

theorem Text.hasRun_iff_isInfix (run cs : List Char) : hasRun run cs = true ↔ run <:+: cs := by
  induction cs with
  | nil => simp [hasRun, List.isEmpty_iff]
  | cons c rest ih =>
      rw [hasRun, Bool.or_eq_true, ih, List.isPrefixOf_iff_prefix, List.infix_cons_iff]

namespace Snippet

/-- Output that has none of the words that betray a failure, however they are written. -/
def IsClean (output : String) : Prop :=
  ∀ marker ∈ ["error", "exception", "traceback"],
    ¬ marker.toList <:+: (Text.lowercase output).toList

theorem not_indicatesFailure_iff (output : String) :
    (!indicatesFailure output) = true ↔ IsClean output := by
  simp [indicatesFailure, failureMarkers, Text.occursIn, IsClean, ← Text.hasRun_iff_isInfix]

section Course

variable (target : Target) (settings : Settings) (container code : String) (timeout : ℕ)

def replyAt (m : Moment) : Reply String :=
  target.onExecute m container [settings.runtime, "-c", code]

def callAt (m : Moment) : Call := ⟨m.now, .execute container [settings.runtime, "-c", code]⟩

/-- The moment at which a try that starts at a moment has been answered or is cut off. -/
def endedAt (m : Moment) : Moment :=
  ⟨m.now + (replyAt target settings container code m).waitWithin timeout,
    callAt settings container code m :: m.past⟩

/-- The moments at which a snippet is tried one time after the other, with a pause of an
interval. -/
def triedAt (start : Moment) : ℕ → Moment
  | 0 => start
  | k + 1 =>
      let m := endedAt target settings container code timeout (triedAt start k)
      { m with now := m.now + Settings.millis settings.snippetRetryInterval }

/-- A try that starts at a moment is answered in time with a fault after which it is worth another
one. -/
def IsRefused (m : Moment) : Prop :=
  ∃ delay fault, replyAt target settings container code m = .after delay (.error fault) ∧
    delay ≤ timeout ∧ fault.kind ∈ [.api, .connection]

/-- Time has run out with a last try that starts at a moment: it is cut off, there is no time for
another one, or the target itself says so. -/
def RunsOut (m : Moment) : Prop :=
  (∀ delay answer,
      replyAt target settings container code m = .after delay answer → timeout < delay) ∨
    IsRefused target settings container code timeout m ∨
    ∃ delay operation elapsed budget attempts,
      replyAt target settings container code m =
          .after delay (.error (.timeout operation elapsed budget attempts)) ∧
        delay ≤ timeout

/-- What the outcome of a snippet that takes a time tells about its last try, which starts at a
moment. -/
structure Tells (last : Moment) (elapsed : ℕ) (outcome : SnippetOutcome) : Prop where
  seconds_eq : outcome.seconds = Binary64.ofMillis elapsed
  success_iff : outcome.success = true ↔
    ∃ delay output, replyAt target settings container code last = .after delay (.ok output) ∧
      delay ≤ timeout ∧ IsClean output
  of_output : ∀ delay output,
    replyAt target settings container code last = .after delay (.ok output) → delay ≤ timeout →
      outcome.output = output
  of_runsOut : RunsOut target settings container code timeout last →
    outcome.output = "Code execution timeout after " ++ (Binary64.ofMillis elapsed).hundredths ++
      s!"s (limit: {timeout / 1000}s)"
  of_fault : ∀ delay fault,
    replyAt target settings container code last = .after delay (.error fault) → delay ≤ timeout →
      fault.kind ∉ [.api, .connection, .timeout] →
        outcome.output = "Pod execution failed: " ++ fault.message

end Course

section Outcome

variable {target : Target} {settings : Settings} {container code : String} {timeout : ℕ}
  {last : Moment} (elapsed : ℕ)

theorem tells_of_late
    (h : (replyAt target settings container code last).answerWithin timeout = none)
    (operation : String) (since budget attempts : ℕ) :
    Tells target settings container code timeout last elapsed
      (outcomeOf timeout elapsed (.error (.timeout operation since budget attempts))) := by
  have hlate := (Reply.answerWithin_eq_none_iff _ _).mp h
  refine ⟨rfl, ?_, ?_, fun _ => rfl, ?_⟩
  · constructor
    · intro hsuccess
      cases hsuccess
    · rintro ⟨delay, output, hreply, hle, -⟩
      exact absurd hle (Nat.not_le.mpr (hlate delay _ hreply))
  · intro delay output hreply hle
    exact absurd hle (Nat.not_le.mpr (hlate delay _ hreply))
  · intro delay fault hreply hle
    exact absurd hle (Nat.not_le.mpr (hlate delay _ hreply))

theorem tells_of_output {delay : ℕ} {output : String}
    (h : replyAt target settings container code last = .after delay (.ok output))
    (hle : delay ≤ timeout) :
    Tells target settings container code timeout last elapsed
      (outcomeOf timeout elapsed (.ok output)) := by
  refine ⟨rfl, ?_, ?_, ?_, ?_⟩
  · simp [outcomeOf, h, hle, ← not_indicatesFailure_iff]
  · simp [outcomeOf, h]
  · rintro (hlate | ⟨_, fault, hreply, -⟩ | ⟨_, _, _, _, _, hreply, -⟩)
    · exact absurd hle (Nat.not_le.mpr (hlate delay _ h))
    · rw [h] at hreply
      cases hreply
    · rw [h] at hreply
      cases hreply
  · intro _ fault hreply
    rw [h] at hreply
    cases hreply

theorem tells_of_refused {delay : ℕ} {fault : Fault}
    (h : replyAt target settings container code last = .after delay (.error fault))
    (hkind : fault.kind ∈ [.api, .connection, .timeout]) (operation : String)
    (since budget attempts : ℕ) :
    Tells target settings container code timeout last elapsed
      (outcomeOf timeout elapsed (.error (.timeout operation since budget attempts))) := by
  refine ⟨rfl, ?_, ?_, fun _ => rfl, ?_⟩
  · simp [outcomeOf, h]
  · simp [h]
  · intro _ found hreply _ hother
    rw [h] at hreply
    cases hreply
    exact absurd hkind hother

theorem tells_of_fault {delay : ℕ} {fault : Fault}
    (h : replyAt target settings container code last = .after delay (.error fault))
    (hle : delay ≤ timeout) (hkind : fault.kind ∉ [.api, .connection, .timeout]) :
    Tells target settings container code timeout last elapsed
      (outcomeOf timeout elapsed (.error fault)) := by
  have hfailed : outcomeOf timeout elapsed (.error fault) =
      ⟨false, "Pod execution failed: " ++ fault.message, Binary64.ofMillis elapsed⟩ := by
    cases fault with
    | timeout _ _ _ _ => exact absurd (by simp [Fault.kind]) hkind
    | _ => rfl
  rw [hfailed]
  refine ⟨rfl, ?_, ?_, ?_, ?_⟩
  · simp [h]
  · simp [h]
  · rintro (hlate | ⟨_, found, hreply, -, hrefused⟩ | ⟨_, _, _, _, _, hreply, -⟩)
    · exact absurd hle (Nat.not_le.mpr (hlate delay _ h))
    · rw [h] at hreply
      cases hreply
      simp_all
    · rw [h] at hreply
      cases hreply
      exact absurd (by simp [Fault.kind]) hkind
  · intro _ found hreply _ _
    rw [h] at hreply
    cases hreply
    rfl

theorem tells_outcomeOf (hinterval : 0 < settings.snippetRetryInterval) (htimeout : 0 < timeout)
    (n : ℕ) :
    Tells target settings container code timeout last elapsed
      (outcomeOf timeout elapsed ((poller settings hinterval htimeout).outcome n elapsed
        (tickOf timeout
          ((replyAt target settings container code last).answerWithin timeout)))) := by
  cases hanswer : (replyAt target settings container code last).answerWithin timeout with
  | none => exact tells_of_late elapsed hanswer _ _ _ _
  | some answer =>
      obtain ⟨delay, hreply, hle⟩ := (Reply.answerWithin_eq_some_iff _ _ _).mp hanswer
      cases answer with
      | ok output => exact tells_of_output elapsed hreply hle
      | error fault =>
          -- A refusal is the last answer only if there is no time for another try.
          rw [tickOf, Poller.outcome]
          by_cases hrefused : fault.kind ∈ (poller settings hinterval htimeout).ignorable
          · rw [if_pos hrefused]
            refine tells_of_refused elapsed hreply ?_ _ _ _ _
            simp only [poller, List.mem_cons, List.not_mem_nil, or_false] at hrefused ⊢
            exact hrefused.elim .inl fun hconnection => .inr (.inl hconnection)
          · rw [if_neg hrefused]
            by_cases htold : fault.kind = .timeout
            · cases fault with
              | timeout _ _ _ _ =>
                  exact tells_of_refused elapsed hreply (by simp [Fault.kind]) _ _ _ _
              | _ => cases htold
            · refine tells_of_fault elapsed hreply hle ?_
              simp only [poller, List.mem_cons, List.not_mem_nil, or_false] at hrefused ⊢
              tauto

end Outcome

section Tries

variable (target : Target) (settings : Settings) (container code : String) (timeout : ℕ)
  (hinterval : 0 < settings.snippetRetryInterval) (htimeout : 0 < timeout) (start : Moment)

theorem momentOf_eq_triedAt (k : ℕ) :
    (poller settings hinterval htimeout).momentOf
        (tries target settings container code timeout) start k =
      triedAt target settings container code timeout start k := by
  induction k with
  | zero => rfl
  | succ k ih =>
      simp only [Poller.momentOf, ih, tries, run_tryOnce]
      rfl

theorem replyTo_eq_replyAt (k : ℕ) :
    replyTo target settings container code timeout (poller settings hinterval htimeout) start k =
      replyAt target settings container code
        (triedAt target settings container code timeout start k) := by
  rw [replyTo, momentOf_eq_triedAt]
  rfl

theorem now_triedAt (k : ℕ) :
    (triedAt target settings container code timeout start k).now =
      start.now + Poller.startOf (poller settings hinterval htimeout).interval
        ((poller settings hinterval htimeout).delayOf
          (tries target settings container code timeout) start) k := by
  rw [← momentOf_eq_triedAt target settings container code timeout hinterval htimeout,
    Poller.momentOf_now]

theorem goesOn_iff_isRefused (k : ℕ) :
    (poller settings hinterval htimeout).GoesOn
        ((poller settings hinterval htimeout).answerOf
          (tries target settings container code timeout) start k) ↔
      IsRefused target settings container code timeout
        (triedAt target settings container code timeout start k) := by
  rw [answerOf_tries, replyTo_eq_replyAt]
  cases hanswer : (replyAt target settings container code
      (triedAt target settings container code timeout start k)).answerWithin timeout with
  | none =>
      have hlate := (Reply.answerWithin_eq_none_iff _ _).mp hanswer
      refine iff_of_false (by simp [tickOf, Poller.GoesOn, poller, Fault.kind]) ?_
      rintro ⟨delay, fault, hreply, hle, -⟩
      exact absurd hle (Nat.not_le.mpr (hlate delay _ hreply))
  | some answer =>
      obtain ⟨delay, hreply, hle⟩ := (Reply.answerWithin_eq_some_iff _ _ _).mp hanswer
      cases answer <;> simp [tickOf, Poller.GoesOn, poller, IsRefused, hreply, hle]

theorem not_mem_entries_tries (success : Bool) :
    .count (.snippetChecks success) ∉
      (((poller settings hinterval htimeout).runEach
        (tries target settings container code timeout)).run start).entries := by
  intro hentry
  refine Poller.records_runEach (P := (· ≠ .count (.snippetChecks success))) _ ?_ ?_ start _
    hentry rfl
  · rintro _ hnote rfl
    exact hnote
  · exact fun _ => records_tryOnce target container _ timeout (by simp)

theorem count_of_not_mem {entries : List Entry} {success : Bool} (e : Event) (passed : Bool)
    (h : .count (.snippetChecks success) ∉ entries) :
    (.event e :: (entries ++ [.count (.snippetChecks passed)])).count
        (.count (.snippetChecks success)) =
      if success = passed then 1 else 0 := by
  rw [List.count_cons, List.count_append, List.count_eq_zero.mpr h, List.count_singleton]
  cases success <;> cases passed <;> simp

end Tries

/-- The course of the run of a snippet.  It is tried again exactly as long as all tries before are
refused and it is not past the limit, a retry interval after the end of the one before, and never
after a fault of the code itself.  There always is an outcome, which is counted once, and which
tells how the last try was answered and how long it all took. -/
theorem run_course (target : Target) (settings : Settings) (container code : String) (timeout : ℕ)
    (start : Moment) (hinterval : 0 < settings.snippetRetryInterval) (htimeout : 0 < timeout) :
    let tried := triedAt target settings container code timeout start
    let t := (run target settings container code timeout).run start
    ∃ n outcome,
      (∀ k, k ≤ n ↔
        (∀ j < k, IsRefused target settings container code timeout (tried j)) ∧
          (tried k).now ≤ start.now + timeout) ∧
      t.calls = (List.range (n + 1)).map (fun k => callAt settings container code (tried k)) ∧
      (∀ k delay place reason, replyAt target settings container code (tried k) =
        .after delay (.error (.execution place reason)) → n ≤ k) ∧
      start.now + t.elapsed = (endedAt target settings container code timeout (tried n)).now ∧
      t.value = some (.ok outcome) ∧
      Tells target settings container code timeout (tried n) t.elapsed outcome ∧
      ∀ success,
        t.counted (.snippetChecks success) = if success = outcome.success then 1 else 0 := by
  intro tried t
  obtain ⟨n, hlast⟩ := (poller settings hinterval htimeout).exists_isLast
    (tries target settings container code timeout) start
  -- Each try is cut off, so the last one of the poll is reached and decides the outcome.
  have hpoll := Poller.runEach_of_isLast hlast fun k _ => isSome_value_tries _ _ _ _ _ _ _ k
  have hrun := run_of_poll hinterval htimeout (congrArg Trace.value hpoll)
  have hanswer := answerOf_tries target settings container code timeout
    (poller settings hinterval htimeout) start n
  rw [replyTo_eq_replyAt] at hanswer
  obtain ⟨helapsed, hcalls, -⟩ := run_tells hinterval htimeout hlast
  have htries : ∀ k, k ≤ n ↔
      (∀ j < k, IsRefused target settings container code timeout (tried j)) ∧
        (tried k).now ≤ start.now + timeout := by
    intro k
    simp only [Poller.le_iff_of_isLeast_endsAt hlast k, goesOn_iff_isRefused, tried,
      now_triedAt target settings container code timeout hinterval htimeout,
      Nat.add_le_add_iff_left]
    rfl
  refine ⟨n, _, htries, ?_, ?_, ?_, congrArg Trace.value hrun, ?_, ?_⟩
  · rw [hcalls]
    refine List.map_congr_left fun k _ => ?_
    simp only [callAt, tried, now_triedAt target settings container code timeout hinterval htimeout]
    rfl
  · intro k delay place reason hreply
    by_contra hk
    obtain ⟨_, fault, hfault, -, hkind⟩ :=
      ((htries (k + 1)).mp (Nat.lt_of_not_le hk)).1 k k.lt_succ_self
    rw [hreply] at hfault
    cases hfault
    simp [Fault.kind] at hkind
  · rw [helapsed, endedAt, Poller.endOf, delayOf_tries, replyTo_eq_replyAt]
    simp only [tried, now_triedAt target settings container code timeout hinterval htimeout]
    omega
  · rw [show t.elapsed = _ from congrArg Trace.elapsed hrun, hpoll, hanswer]
    exact tells_outcomeOf _ hinterval htimeout n
  · intro success
    rw [show t = _ from hrun]
    exact count_of_not_mem _ _ (not_mem_entries_tries target settings container code timeout
      hinterval htimeout start success)

def stumblingTarget : Target where
  name := "nb-0"
  onSnapshot _ := .never
  onExecute m _ _ :=
    if m.past = [] then .after 5 (.error (.api "busy")) else .after 10 (.ok "ValueError: 3")
  onLog _ _ _ := .never

theorem run_of_stumbling_target :
    let settings : Settings := { snippetRetryInterval := 1 }
    let t := (run stumblingTarget settings "nb" "int('x')" 3000).run ⟨0, []⟩
    0 < settings.snippetRetryInterval ∧ 0 < 3000 ∧
      ∃ outcome, t.value = some (.ok outcome) ∧ t.elapsed = 1015 ∧ outcome.success = false ∧
        outcome.output = "ValueError: 3" ∧ t.counted (.snippetChecks false) = 1 := by
  intro settings t
  have hinterval : 0 < settings.snippetRetryInterval := by decide
  have hlimit : 0 < 3000 := by decide
  obtain ⟨n, outcome, htries, -, -, hend, hvalue, htells, hcounted⟩ :=
    run_course stumblingTarget settings "nb" "int('x')" 3000 ⟨0, []⟩ hinterval hlimit
  have hsecond : 1 ≤ n := by
    refine (htries 1).mpr ⟨?_, by decide +kernel⟩
    intro j hj
    obtain rfl := Nat.lt_one_iff.mp hj
    exact ⟨5, .api "busy", rfl, by decide, by decide⟩
  have hlast : n ≤ 1 := by
    by_contra hthird
    obtain ⟨_, _, hreply, -, -⟩ := ((htries 2).mp (Nat.lt_of_not_le hthird)).1 1 (by decide)
    cases hreply
  obtain rfl : n = 1 := le_antisymm hlast hsecond
  have hoked : outcome.output = "ValueError: 3" := htells.of_output 10 _ rfl (by decide)
  have hfailed : outcome.success = false := by
    rw [Bool.eq_false_iff]
    intro hsuccess
    obtain ⟨_, _, hreply, -, hclean⟩ := htells.success_iff.mp hsuccess
    cases hreply
    exact absurd ((not_indicatesFailure_iff _).mpr hclean) (by decide +kernel)
  refine ⟨hinterval, hlimit, outcome, hvalue, ?_, hfailed, hoked, ?_⟩
  · exact (Nat.zero_add _).symm.trans (hend.trans (by decide +kernel))
  · rw [hcounted, hfailed, if_pos rfl]

end Snippet

end NotebookCheck

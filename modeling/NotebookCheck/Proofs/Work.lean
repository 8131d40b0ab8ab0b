import NotebookCheck.Target

namespace NotebookCheck

variable {α β : Type}

namespace Trace

def followedBy (t : Trace α) (u : Trace β) : Trace β :=
  ⟨u.value, t.elapsed + u.elapsed, t.entries ++ u.entries⟩

@[simp] theorem value_followedBy (t : Trace α) (u : Trace β) :
    (t.followedBy u).value = u.value := rfl

@[simp] theorem elapsed_followedBy (t : Trace α) (u : Trace β) :
    (t.followedBy u).elapsed = t.elapsed + u.elapsed := rfl

@[simp] theorem entries_followedBy (t : Trace α) (u : Trace β) :
    (t.followedBy u).entries = t.entries ++ u.entries := rfl

@[simp] theorem calls_followedBy (t : Trace α) (u : Trace β) :
    (t.followedBy u).calls = t.calls ++ u.calls := by
  simp [calls]

theorem counted_followedBy (t : Trace α) (u : Trace β) (c : Counter) :
    (t.followedBy u).counted c = t.counted c + u.counted c := by
  rw [counted, entries_followedBy, List.count_append]
  rfl

theorem followedBy_assoc {γ : Type} (t : Trace α) (u : Trace β) (v : Trace γ) :
    (t.followedBy u).followedBy v = t.followedBy (u.followedBy v) := by
  simp [followedBy, Nat.add_assoc]

/-- Calls as requests, each with the moment at which it was made, after the calls of the past. -/
def askedAfter : List Call → List Call → List (Moment × Request)
  | _, [] => []
  | past, call :: rest =>
      (⟨call.time, past⟩, call.request) :: askedAfter (call :: past) rest

theorem askedAfter_append (past first second : List Call) :
    askedAfter past (first ++ second) =
      askedAfter past first ++ askedAfter (first.reverse ++ past) second := by
  induction first generalizing past with
  | nil => rfl
  | cons call rest ih =>
      simp only [List.cons_append, askedAfter, List.reverse_cons, List.append_assoc,
        List.nil_append]
      rw [ih (call :: past)]

/-- The requests of a trace that starts at a moment, each with the moment at which it was made. -/
def asked (t : Trace α) (m : Moment) : List (Moment × Request) :=
  askedAfter m.past t.calls

theorem asked_followedBy (t : Trace α) (u : Trace β) (m : Moment) :
    (t.followedBy u).asked m = t.asked m ++ u.asked (m.after t) := by
  rw [asked, calls_followedBy, askedAfter_append]
  rfl

theorem map_askedAfter (past calls : List Call) :
    (askedAfter past calls).map (fun asked => ⟨asked.1.now, asked.2⟩) = calls := by
  induction calls generalizing past with
  | nil => rfl
  | cons call rest ih => rw [askedAfter, List.map_cons, ih]

theorem map_asked (t : Trace α) (m : Moment) :
    (t.asked m).map (fun asked => ⟨asked.1.now, asked.2⟩) = t.calls :=
  map_askedAfter m.past t.calls

end Trace

@[simp] theorem Moment.after_followedBy (m : Moment) (t : Trace α) (u : Trace β) :
    m.after (t.followedBy u) = (m.after t).after u := by
  simp [Moment.after, Nat.add_assoc]

namespace Work

theorem pure_apply (a : α) (m : Moment) : (pure a : Work α) m = ⟨some a, 0, []⟩ := rfl

theorem bind_of_value (w : Work α) (f : α → Work β) (m : Moment) {a : α}
    (h : (w m).value = some a) :
    (w >>= f) m = (w m).followedBy (f a (m.after (w m))) := by
  change thenDo w f m = _
  simp only [thenDo, h]
  rfl

theorem bind_of_none (w : Work α) (f : α → Work β) (m : Moment)
    (h : (w m).value = none) :
    (w >>= f) m = ⟨none, (w m).elapsed, (w m).entries⟩ := by
  change thenDo w f m = _
  simp only [thenDo, h]

theorem note_bind (level : Level) (message : String) (fields : List (String × FieldValue))
    (f : Unit → Work β) (m : Moment) :
    (note level message fields >>= f) m =
      (Trace.mk (some ()) 0 [.event ⟨level, message, fields⟩]).followedBy (f () m) := rfl

theorem value_bind_eq_some_iff (w : Work α) (f : α → Work β) (m : Moment) (b : β) :
    ((w >>= f) m).value = some b ↔
      ∃ a, (w m).value = some a ∧ (f a (m.after (w m))).value = some b := by
  cases h : (w m).value with
  | none => simp [bind_of_none w f m h]
  | some a => simp [bind_of_value w f m h]

theorem asked_note_bind (level : Level) (message : String)
    (fields : List (String × FieldValue)) (f : Unit → Work β) (m : Moment) :
    ((note level message fields >>= f) m).asked m = (f () m).asked m := rfl

theorem asked_isPrefix_bind (w : Work α) (f : α → Work β) (m : Moment) :
    (w m).asked m <+: ((w >>= f) m).asked m := by
  cases h : (w m).value with
  | none =>
      rw [bind_of_none w f m h]
      exact List.prefix_refl _
  | some a =>
      rw [bind_of_value w f m h, Trace.asked_followedBy]
      exact List.prefix_append _ _

theorem record_bind (entry : Entry) (f : Unit → Work β) (m : Moment)
    (h : entry.call? = none) :
    (record entry >>= f) m = (Trace.mk (some ()) 0 [entry]).followedBy (f () m) := by
  have hafter : m.after (Trace.mk (some ()) 0 [entry]) = m := by
    simp [Moment.after, Trace.calls, h]
  rw [bind_of_value (record entry) f m rfl]
  exact congrArg (fun next => Trace.followedBy _ (f () next)) hafter

theorem bind_pure_apply (w : Work α) (f : α → β) (m : Moment) :
    (w >>= fun a => pure (f a)) m = ⟨(w m).value.map f, (w m).elapsed, (w m).entries⟩ := by
  cases h : (w m).value with
  | none => rw [bind_of_none w _ m h]; rfl
  | some a =>
      rw [bind_of_value w _ m h]
      simp [Trace.followedBy, pure_apply]

theorem map_apply (f : α → β) (w : Work α) (m : Moment) :
    (f <$> w) m = ⟨(w m).value.map f, (w m).elapsed, (w m).entries⟩ :=
  bind_pure_apply w f m

/-- Two pieces of work take the same course from every moment: they make the same calls at the same
times, take as long, and come to values that correspond. -/
def Resembles (f : α → β) (w : Work α) (u : Work β) : Prop :=
  ∀ m, m.after (w m) = m.after (u m) ∧ (w m).value.map f = (u m).value

section

variable {γ δ : Type} {f : α → β} {w : Work α} {u : Work β}

theorem Resembles.refl (w : Work α) : Resembles id w w :=
  fun _ => ⟨rfl, Option.map_id_apply⟩

theorem Resembles.bind {g : γ → δ} {k : α → Work γ} {l : β → Work δ} (h : Resembles f w u)
    (hk : ∀ a, Resembles g (k a) (l (f a))) : Resembles g (w >>= k) (u >>= l) := by
  intro m
  obtain ⟨hafter, hvalue⟩ := h m
  cases hw : (w m).value with
  | none =>
      rw [hw, Option.map_none] at hvalue
      rw [bind_of_none w k m hw, bind_of_none u l m hvalue.symm]
      exact ⟨hafter, rfl⟩
  | some a =>
      rw [hw, Option.map_some] at hvalue
      rw [bind_of_value w k m hw, bind_of_value u l m hvalue.symm, Moment.after_followedBy,
        Moment.after_followedBy, hafter]
      exact hk a _

theorem Resembles.note_bind {k : Unit → Work α} (level : Level) (message : String)
    (fields : List (String × FieldValue)) (h : Resembles f (k ()) u) :
    Resembles f (note level message fields >>= k) u := by
  intro m
  rw [Work.note_bind, Moment.after_followedBy]
  exact h m

/-- Work still takes the same course if it only makes something of its value at the end. -/
theorem Resembles.bind_done {g : γ → β} {k : α → Work γ} (h : Resembles f w u)
    (hk : ∀ a, Resembles g (k a) (pure (f a))) : Resembles g (w >>= k) u := by
  intro m
  have hbind := Resembles.bind (l := pure) h hk m
  have hu : (u >>= pure) m = u m := by
    refine (bind_pure_apply u id m).trans ?_
    rw [Option.map_id_apply]
  rwa [hu] at hbind

end

end Work

namespace Attempt

theorem run_bind_of_ok {ε : Type} (w : ExceptT ε Work α) (f : α → ExceptT ε Work β)
    (m : Moment) {a : α} (h : (w.run m).value = some (.ok a)) :
    (w >>= f).run m = Trace.followedBy (w.run m) ((f a).run (m.after (w.run m))) := by
  rw [ExceptT.run_bind, Work.bind_of_value w.run _ m h]

theorem run_bind_of_error {ε : Type} (w : ExceptT ε Work α) (f : α → ExceptT ε Work β)
    (m : Moment) {fault : ε} (h : (w.run m).value = some (.error fault)) :
    (w >>= f).run m =
      ⟨some (.error fault), (w.run m).elapsed, (w.run m).entries⟩ := by
  rw [ExceptT.run_bind, Work.bind_of_value w.run _ m h]
  simp [Trace.followedBy, Work.pure_apply]

theorem run_bind_of_none {ε : Type} (w : ExceptT ε Work α) (f : α → ExceptT ε Work β)
    (m : Moment) (h : (w.run m).value = none) :
    (w >>= f).run m = ⟨none, (w.run m).elapsed, (w.run m).entries⟩ := by
  rw [ExceptT.run_bind, Work.bind_of_none w.run _ m h]

theorem run_bind_pure (w : Attempt α) (f : α → β) (m : Moment) :
    (w >>= fun a => pure (f a) : Attempt β).run m =
      ⟨(w.run m).value.map (Except.map f), (w.run m).elapsed, (w.run m).entries⟩ := by
  cases h : (w.run m).value with
  | none => rw [run_bind_of_none _ _ _ h]; rfl
  | some result =>
      cases result with
      | error fault => rw [run_bind_of_error _ _ _ h]; rfl
      | ok a =>
          rw [run_bind_of_ok _ _ _ h]
          simp [Trace.followedBy, Work.pure_apply, Except.map]

theorem run_ofExcept_bind_error (fault : Fault) (f : α → Attempt β) (m : Moment) :
    (ofExcept (.error fault) >>= f).run m = ⟨some (.error fault), 0, []⟩ := rfl

theorem run_ofExcept_bind_ok (a : α) (f : α → Attempt β) (m : Moment) :
    (ofExcept (.ok a) >>= f).run m = (f a).run m := by
  change (Trace.mk (some (Except.ok a)) 0 []).followedBy ((f a).run m) = _
  simp only [Trace.followedBy, Nat.zero_add, List.nil_append]

theorem run_lift (w : Work α) (m : Moment) :
    (liftM w : Attempt α).run m = ⟨(w m).value.map .ok, (w m).elapsed, (w m).entries⟩ :=
  Work.map_apply Except.ok w m

theorem run_lift_bind (w : Work α) (f : α → Attempt β) (m : Moment) :
    ((liftM w : Attempt α) >>= f).run m = (w >>= fun a => (f a).run) m := by
  cases h : (w m).value with
  | none =>
      rw [run_bind_of_none _ _ _ (by rw [run_lift, h]; rfl), Work.bind_of_none _ _ _ h,
        run_lift]
  | some a =>
      rw [run_bind_of_ok _ _ _ (by rw [run_lift, h]; rfl), Work.bind_of_value _ _ _ h,
        run_lift]
      rfl

theorem run_bind_note (w : Attempt Unit) (level : Level) (message : String)
    (fields : List (String × FieldValue)) (m : Moment) :
    let t := (w >>= fun _ => Work.note level message fields : Attempt Unit).run m
    t.value = (w.run m).value ∧ t.elapsed = (w.run m).elapsed ∧ t.calls = (w.run m).calls := by
  intro t
  cases hvalue : (w.run m).value with
  | none =>
      rw [show t = _ from run_bind_of_none _ _ _ hvalue]
      exact ⟨rfl, rfl, rfl⟩
  | some ended =>
      cases ended with
      | error fault =>
          rw [show t = _ from run_bind_of_error _ _ _ hvalue]
          exact ⟨rfl, rfl, rfl⟩
      | ok _ =>
          rw [show t = _ from run_bind_of_ok _ _ _ hvalue, Trace.calls_followedBy]
          exact ⟨rfl, rfl, List.append_nil _⟩

theorem resembles_bind {ε γ δ : Type} {f : α → β} {g : γ → δ} {w : ExceptT ε Work α}
    {u : ExceptT ε Work β} {k : α → ExceptT ε Work γ} {l : β → ExceptT ε Work δ}
    (h : Work.Resembles (Except.map f) w.run u.run)
    (hk : ∀ a, Work.Resembles (Except.map g) (k a).run (l (f a)).run) :
    Work.Resembles (Except.map g) (w >>= k).run (u >>= l).run := by
  rw [ExceptT.run_bind, ExceptT.run_bind]
  refine Work.Resembles.bind h fun result => ?_
  cases result with
  | error fault => exact fun _ => ⟨rfl, rfl⟩
  | ok a => exact hk a

theorem resembles_bind_unit (w : Attempt α) :
    Work.Resembles (Except.map fun _ => ()) w.run (w >>= fun _ => pure () : Attempt Unit).run := by
  intro m
  rw [run_bind_pure]
  exact ⟨rfl, rfl⟩

end Attempt

end NotebookCheck

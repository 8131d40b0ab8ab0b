import NotebookCheck.Proofs.PackageImport

namespace NotebookCheck.Packages

def firstFault (faults : List (Option Fault)) : Option Fault := faults.findSome? id

/-- What may be wrong with a request before the target is asked anything: no packages, no time, a
name that is none. -/
def requestFaults (packages : List String) (timeout : Nat) : List (Option Fault) :=
  [if packages = [] then some (.validation "packages list cannot be empty") else none,
    if timeout = 0 then some (.validation "timeout must be positive") else none,
    (packages.find? fun package => !isPackageName package).map fun package =>
      .validation ("Invalid package name: '" ++ package ++ "'")]

/-- What may be wrong with a target once it has answered how it stands: the answer itself, that it
is not there, not running, or without the container. -/
def targetFaults (name container : String) (answer : Except Fault (Option Snapshot)) :
    List (Option Fault) :=
  [match answer with
    | .error fault => some fault
    | .ok _ => none,
    match answer with
    | .ok none => some (.precondition (.targetMissing name))
    | _ => none,
    match answer with
    | .ok (some snapshot) =>
        if snapshot.phase = .running then none
        else some (.precondition (.notRunning name snapshot.phase.name))
    | _ => none,
    match answer with
    | .ok (some snapshot) =>
        if container ∈ snapshot.containerNames then none
        else some (.precondition (.containerNotFound name container snapshot.containerNames))
    | _ => none]

def ofFault : Option Fault → Except Fault Unit
  | some fault => .error fault
  | none => .ok ()

theorem forM_checkPackageName (packages : List String) :
    packages.forM checkPackageName =
      ofFault ((packages.find? fun package => !isPackageName package).map fun package =>
        .validation ("Invalid package name: '" ++ package ++ "'")) := by
  induction packages with
  | nil => rfl
  | cons package rest ih =>
      change (checkPackageName package >>= fun _ => rest.forM checkPackageName) = _
      rw [checkPackageName]
      by_cases hname : isPackageName package = true
      · rw [if_pos hname, List.find?_cons_of_neg (by simp [hname]), ← ih]
        rfl
      · rw [if_neg hname, List.find?_cons_of_pos (by simp [hname])]
        rfl

theorem checkRequest_eq_ofFault (packages : List String) (timeout : Nat) :
    checkRequest packages timeout = ofFault (firstFault (requestFaults packages timeout)) := by
  unfold checkRequest firstFault requestFaults
  cases packages with
  | nil => rfl
  | cons package rest =>
      by_cases htimeout : timeout = 0
      · simp only [htimeout]
        rfl
      · rw [forM_checkPackageName]
        simp only [htimeout]
        cases (package :: rest).find? fun package => !isPackageName package <;> rfl

theorem isRunning_eq_decide (phase : Phase) : phase.isRunning = decide (phase = .running) := by
  cases phase <;> simp [Phase.isRunning]

theorem isNone_container?_eq_decide (snapshot : Snapshot) (container : String) :
    (snapshot.container? container).isNone = decide (container ∉ snapshot.containerNames) := by
  rw [Bool.eq_iff_iff]
  simp [Snapshot.container?, Snapshot.containerNames]

theorem run_checkTarget {target : Target} (container : String) {m : Moment} {delay : Nat}
    {answer : Except Fault (Option Snapshot)}
    (h : target.onSnapshot m = .after delay answer) :
    (checkTarget target container).run m =
      ⟨some (ofFault (firstFault (targetFaults target.name container answer))), delay,
        [.call ⟨m.now, .snapshot⟩]⟩ := by
  have hpresent := target.run_presentSnapshot m h
  rw [checkTarget]
  cases answer with
  | error fault =>
      rw [Attempt.run_bind_of_error _ _ _ (congrArg Trace.value hpresent), hpresent]
      rfl
  | ok found =>
      cases found with
      | none =>
          rw [Attempt.run_bind_of_error _ _ _ (congrArg Trace.value hpresent), hpresent]
          rfl
      | some snapshot =>
          rw [Attempt.run_bind_of_ok _ _ _ (congrArg Trace.value hpresent), hpresent]
          simp only [isRunning_eq_decide, isNone_container?_eq_decide]
          by_cases hphase : snapshot.phase = .running
          · by_cases hcontainer : container ∈ snapshot.containerNames
            · simp only [hphase, hcontainer, targetFaults]
              rfl
            · simp only [hphase, hcontainer, targetFaults]
              rfl
          · simp only [hphase, targetFaults]
            rfl

def startedEvent (target : Target) (container : String) (packages : List String) : Event where
  level := .info
  message := "verifying packages"
  fields := [("target_name", .text target.name), ("container", .text container),
    ("count", .count packages.length)]

def finishedEvent (target : Target) (report : PackageReport) : Event where
  level := .info
  message := "package verification finished"
  fields := [("target_name", .text target.name), ("successful", .count report.successful.length),
    ("failed", .count report.failed.length)]

def batchStart (m : Moment) (delay : Nat) : Moment :=
  ⟨m.now + delay, ⟨m.now, .snapshot⟩ :: m.past⟩

section

variable {target : Target} {container : String} {packages : List String} {timeout delay : Nat}
  {m : Moment} {answer : Except Fault (Option Snapshot)} {fault : Fault}

theorem run_verify_of_requestFault (settings : Settings)
    (h : firstFault (requestFaults packages timeout) = some fault) :
    (verify target settings container packages timeout).run m = ⟨some (.error fault), 0, []⟩ := by
  rw [verify, checkRequest_eq_ofFault, h, ofFault, Attempt.run_ofExcept_bind_error]

theorem run_verify_of_targetFault (settings : Settings)
    (hrequest : firstFault (requestFaults packages timeout) = none)
    (hsnapshot : target.onSnapshot m = .after delay answer)
    (h : firstFault (targetFaults target.name container answer) = some fault) :
    (verify target settings container packages timeout).run m =
      ⟨some (.error fault), delay, [.call ⟨m.now, .snapshot⟩]⟩ := by
  have htarget := run_checkTarget container hsnapshot
  rw [h, ofFault] at htarget
  rw [verify, checkRequest_eq_ofFault, hrequest, ofFault, Attempt.run_ofExcept_bind_ok,
    Attempt.run_bind_of_error _ _ _ (congrArg Trace.value htarget), htarget]

theorem run_verify_of_never (settings : Settings)
    (hrequest : firstFault (requestFaults packages timeout) = none)
    (hsnapshot : target.onSnapshot m = .never) :
    (verify target settings container packages timeout).run m =
      ⟨none, 0, [.call ⟨m.now, .snapshot⟩]⟩ := by
  have hcheck : (checkTarget target container).run m =
      ⟨none, 0, [.call ⟨m.now, .snapshot⟩]⟩ := by
    have hpresent := target.run_presentSnapshot_of_never m hsnapshot
    rw [checkTarget, Attempt.run_bind_of_none _ _ _ (congrArg Trace.value hpresent), hpresent]
  rw [verify, checkRequest_eq_ofFault, hrequest, ofFault, Attempt.run_ofExcept_bind_ok,
    Attempt.run_bind_of_none _ _ _ (congrArg Trace.value hcheck), hcheck]

theorem run_verify_of_no_fault (settings : Settings)
    (hrequest : firstFault (requestFaults packages timeout) = none)
    (hsnapshot : target.onSnapshot m = .after delay answer)
    (htarget : firstFault (targetFaults target.name container answer) = none) :
    let batch := verifyEach target settings container timeout .empty packages
      (batchStart m delay)
    (verify target settings container packages timeout).run m =
      ⟨batch.value.map .ok, delay + batch.elapsed,
        .call ⟨m.now, .snapshot⟩ :: .event (startedEvent target container packages) ::
          batch.entries ++
          (batch.value.map fun report => Entry.event (finishedEvent target report)).toList⟩ := by
  intro batch
  have hcheck := run_checkTarget container hsnapshot
  rw [htarget, ofFault] at hcheck
  have hstart : m.after (Trace.mk (some (.ok () : Except Fault Unit)) delay
      [.call ⟨m.now, .snapshot⟩]) = batchStart m delay := rfl
  rw [verify, checkRequest_eq_ofFault, hrequest, ofFault, Attempt.run_ofExcept_bind_ok,
    Attempt.run_bind_of_ok _ _ _ (congrArg Trace.value hcheck), hcheck, hstart,
    Attempt.run_lift_bind, Work.note_bind, Attempt.run_lift_bind]
  cases hvalue : batch.value with
  | none =>
      rw [Work.bind_of_none _ _ _ hvalue]
      simp only [Trace.followedBy, Nat.zero_add, Option.map_none, Option.toList_none,
        List.append_nil]
      rfl
  | some report =>
      rw [Work.bind_of_value _ _ _ hvalue, Attempt.run_lift_bind, Work.note_bind]
      simp only [Trace.followedBy, Nat.zero_add]
      rfl

theorem asked_verify_of_no_fault (settings : Settings)
    (hrequest : firstFault (requestFaults packages timeout) = none)
    (hsnapshot : target.onSnapshot m = .after delay answer)
    (htarget : firstFault (targetFaults target.name container answer) = none) :
    ((verify target settings container packages timeout).run m).asked m =
      (m, .snapshot) ::
        (verifyEach target settings container timeout .empty packages
          (batchStart m delay)).asked (batchStart m delay) := by
  rw [run_verify_of_no_fault settings hrequest hsnapshot htarget]
  have hcalls : ∀ value : Option PackageReport,
      (value.map fun report => Entry.event (finishedEvent target report)).toList.filterMap
        Entry.call? = [] := by
    intro value
    cases value <;> rfl
  simp only [Trace.asked, Trace.calls, List.filterMap_append, hcalls, List.append_nil]
  rfl

end

theorem firstFault_requestFaults_eq_none_iff (packages : List String) (timeout : Nat) :
    firstFault (requestFaults packages timeout) = none ↔
      packages ≠ [] ∧ 0 < timeout ∧ ∀ package ∈ packages, isPackageName package = true := by
  simp only [firstFault, requestFaults, List.findSome?_eq_none_iff, List.forall_mem_cons,
    id_eq]
  simp [Nat.pos_iff_ne_zero]

theorem checkRequest_eq_ok_iff (packages : List String) (timeout : Nat) :
    checkRequest packages timeout = .ok () ↔
      packages ≠ [] ∧ 0 < timeout ∧ ∀ package ∈ packages, isPackageName package = true := by
  rw [checkRequest_eq_ofFault, ← firstFault_requestFaults_eq_none_iff]
  cases firstFault (requestFaults packages timeout) <;> simp [ofFault]

theorem firstFault_targetFaults_eq_none_iff (name container : String)
    (answer : Except Fault (Option Snapshot)) :
    firstFault (targetFaults name container answer) = none ↔
      ∃ snapshot, answer = .ok (some snapshot) ∧ snapshot.phase = .running ∧
        container ∈ snapshot.containerNames := by
  cases answer with
  | error fault => simp [firstFault, targetFaults]
  | ok found =>
      cases found with
      | none => simp [firstFault, targetFaults]
      | some snapshot =>
          by_cases hphase : snapshot.phase = .running <;>
            simp [firstFault, targetFaults, hphase]

/-- The first fault of the request, or else of the target, decides how a request is refused.  In
the first case the target is asked nothing, in the second only how it stands, and nothing else is
put on record.  Without a fault the first package is imported next. -/
theorem verify_refused_by_first_fault (target : Target) (settings : Settings)
    (container : String) (packages : List String) (timeout : Nat) (m : Moment) :
    let t := (verify target settings container packages timeout).run m
    (∀ fault, firstFault (requestFaults packages timeout) = some fault →
      t = ⟨some (.error fault), 0, []⟩) ∧
    ∀ delay answer, firstFault (requestFaults packages timeout) = none →
      target.onSnapshot m = .after delay answer →
      (∀ fault, firstFault (targetFaults target.name container answer) = some fault →
        t = ⟨some (.error fault), delay, [.call ⟨m.now, .snapshot⟩]⟩) ∧
      (firstFault (targetFaults target.name container answer) = none →
        ∃ package rest, packages = package :: rest ∧
          [(m, .snapshot), (batchStart m delay, importRequest settings container package)] <+:
            t.asked m) := by
  intro t
  refine ⟨fun fault h => run_verify_of_requestFault settings h, ?_⟩
  intro delay answer hrequest hsnapshot
  refine ⟨fun fault h => run_verify_of_targetFault settings hrequest hsnapshot h, ?_⟩
  intro htarget
  obtain ⟨hpackages, -, -⟩ :=
    (firstFault_requestFaults_eq_none_iff packages timeout).mp hrequest
  obtain ⟨package, rest, rfl⟩ := List.exists_cons_of_ne_nil hpackages
  refine ⟨package, rest, rfl, ?_⟩
  rw [asked_verify_of_no_fault settings hrequest hsnapshot htarget, List.cons_prefix_cons]
  refine ⟨rfl, List.IsPrefix.trans ?_
    (importAsked_isPrefix_verifyEach rest List.not_mem_nil)⟩
  rw [importAsked, List.cons_prefix_cons]
  exact ⟨rfl, List.nil_prefix⟩

end NotebookCheck.Packages

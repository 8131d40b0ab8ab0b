import Mathlib.Data.List.Basic
import NotebookCheck.Cluster.PodTarget
import NotebookCheck.Http.Exchange

/-!
The end of a command in a pod.  Its session closes with the first status that is not empty, and what
comes after that does not count.  A command is successful if the closing status says so, but also if
no status can be read at all: success is not always received.
-/

namespace NotebookCheck.Cluster

open Http Text

def Frame.closing? : Frame → Option (List UInt8)
  | status (byte :: bytes) => some (byte :: bytes)
  | _ => none

def Frame.output : Frame → List UInt8
  | stdout bytes => bytes
  | _ => []

def closingStatus? (frames : List Frame) : Option ExecStatus :=
  (frames.findSome? Frame.closing?).bind ExecStatus.ofBytes?

def outputOf (frames : List Frame) : List UInt8 :=
  (frames.takeWhile fun frame => frame.closing?.isNone).flatMap Frame.output

namespace Session

theorem status_ofFrames (frames : List Frame) :
    (ofFrames frames).status = closingStatus? frames := by
  induction frames with
  | nil => rfl
  | cons frame rest ih =>
      cases frame with
      | status bytes =>
          cases bytes with
          | nil => exact ih
          | cons byte bytes => rfl
      | stdin _ | stdout _ | stderr _ | resize _ => exact ih

theorem stdout_ofFrames (frames : List Frame) :
    (ofFrames frames).stdout = outputOf frames := by
  induction frames with
  | nil => rfl
  | cons frame rest ih =>
      cases frame with
      | status bytes =>
          cases bytes with
          | nil => exact ih
          | cons byte bytes => rfl
      | stdout bytes => exact congrArg (bytes ++ ·) ih
      | stdin _ | stderr _ | resize _ => exact ih

theorem outcome_eq_ok_iff (container text : String) (s : Session) :
    s.outcome container = .ok text ↔
      Utf8.decode s.stdout = .ok text ∧ ∀ status, s.status = some status → status.isSuccess := by
  unfold outcome
  split
  case h_1 fault hdecode => simp [hdecode]
  case h_2 hdecode hstatus => simp [hdecode, hstatus]
  case h_3 status hdecode hstatus =>
      simp only [hdecode, hstatus, Option.some.injEq, forall_eq']
      split
      case isTrue h => simp [h]
      case isFalse h => simp [h]

theorem kind_of_outcome_eq_error {container : String} {s : Session} {fault : Fault}
    (h : s.outcome container = .error fault) : fault.kind = .execution := by
  unfold outcome at h
  split at h
  · cases h
    rfl
  · cases h
  · split at h
    · cases h
    · cases h
      rfl

end Session

/-- A server opens a session for a query, and these are its frames. -/
def Opens (server : Server) (query : Query) (frames : List Frame) : Prop :=
  (∃ request, query.request = .ok request) ∧
    (server query).status = switchingProtocols ∧ (server query).frames = frames

/-- The session of a query closes with the status of a successful command. -/
def ReceivesSuccess (server : Server) (query : Query) : Prop :=
  ∃ frames, Opens server query frames ∧
    ∃ status, closingStatus? frames = some status ∧ status.status = some ExecStatus.success

theorem result_ask_of_request {α : Type} (server : Server) {query : Query}
    (read : Response → Except QueryError α) {request : Http.Request}
    (h : query.request = .ok request) :
    (ask server query read).result = .ok (read (server query)) := by
  rw [ask, h]
  rfl

theorem result_ask_of_flaw {α : Type} (server : Server) {query : Query}
    (read : Response → Except QueryError α) {flaw : RequestFlaw}
    (h : query.request = .error flaw) :
    (ask server query read).result = .ok (.error (.notMade flaw)) := by
  rw [ask, h]
  rfl

section Execute

variable {server : Server} {namespaceName name container : String} {argv : List String}

theorem result_execute_of_opens {frames : List Frame}
    (h : Opens server (.exec namespaceName name container argv) frames) :
    (execute server namespaceName name container argv).result =
      (Session.ofFrames frames).outcome container := by
  obtain ⟨⟨request, hrequest⟩, hstatus, rfl⟩ := h
  have hasked := result_ask_of_request server (·.session) hrequest
  rw [Response.session, if_pos hstatus] at hasked
  rw [execute, Exchange.result_bind_of_ok _ hasked]
  rfl

theorem result_execute_of_not_opens
    (h : ∀ frames, ¬ Opens server (.exec namespaceName name container argv) frames) :
    ∃ message, (execute server namespaceName name container argv).result =
      .error (.api message) := by
  cases hrequest : (Query.exec namespaceName name container argv).request with
  | error flaw =>
      have hasked := result_ask_of_flaw server (·.session) hrequest
      rw [execute, Exchange.result_bind_of_ok _ hasked]
      exact ⟨_, rfl⟩
  | ok request =>
      have hasked := result_ask_of_request server (·.session) hrequest
      rw [Response.session, if_neg fun hstatus => h _ ⟨⟨request, hrequest⟩, hstatus, rfl⟩] at hasked
      rw [execute, Exchange.result_bind_of_ok _ hasked]
      exact ⟨_, rfl⟩

theorem execute_eq_ok_iff {text : String} :
    (execute server namespaceName name container argv).result = .ok text ↔
      ∃ frames, Opens server (.exec namespaceName name container argv) frames ∧
        Utf8.decode (outputOf frames) = .ok text ∧
        ∀ status, closingStatus? frames = some status → status.isSuccess := by
  constructor
  · intro h
    by_cases hopens : ∃ frames, Opens server (.exec namespaceName name container argv) frames
    · obtain ⟨frames, hframes⟩ := hopens
      rw [result_execute_of_opens hframes, Session.outcome_eq_ok_iff, Session.stdout_ofFrames,
        Session.status_ofFrames] at h
      exact ⟨frames, hframes, h⟩
    · obtain ⟨message, herror⟩ := result_execute_of_not_opens (not_exists.mp hopens)
      cases h.symm.trans herror
  · rintro ⟨frames, hframes, h⟩
    rw [result_execute_of_opens hframes, Session.outcome_eq_ok_iff, Session.stdout_ofFrames,
      Session.status_ofFrames]
    exact h

theorem kind_of_execute_eq_error {fault : Fault}
    (h : (execute server namespaceName name container argv).result = .error fault) :
    fault.kind = .execution ∨ fault.kind = .api := by
  by_cases hopens : ∃ frames, Opens server (.exec namespaceName name container argv) frames
  · obtain ⟨frames, hframes⟩ := hopens
    rw [result_execute_of_opens hframes] at h
    exact .inl (Session.kind_of_outcome_eq_error h)
  · obtain ⟨message, herror⟩ := result_execute_of_not_opens (not_exists.mp hopens)
    cases h.symm.trans herror
    exact .inr rfl

end Execute

theorem Opens.unique {server : Server} {query : Query} {frames other : List Frame}
    (h : Opens server query frames) (hother : Opens server query other) : frames = other :=
  h.2.2.symm.trans hother.2.2

/-- When a success has been received.  A command that is not successful fails as an execution or as
a query.  One is successful if it opened a session whose output can be read and which did not close
with the status of a failure; so its success has been received exactly if no such session closed
without a status. -/
theorem execute_receives_success_iff (server : Server) (namespaceName name container : String)
    (argv : List String) :
    let query := Query.exec namespaceName name container argv
    let result := (execute server namespaceName name container argv).result
    (∀ fault, result = .error fault → fault.kind = .execution ∨ fault.kind = .api) ∧
    (∀ text, result = .ok text ↔
      ∃ frames, Opens server query frames ∧ Utf8.decode (outputOf frames) = .ok text ∧
        ∀ status, closingStatus? frames = some status → status.isSuccess) ∧
    ((∀ text, result = .ok text → ReceivesSuccess server query) ↔
      ∀ frames text, Opens server query frames → Utf8.decode (outputOf frames) = .ok text →
        closingStatus? frames ≠ none) := by
  intro query result
  refine ⟨fun _ => kind_of_execute_eq_error, fun _ => execute_eq_ok_iff, ?_, ?_⟩
  · intro h frames text hopens hdecode hnone
    have hok : result = .ok text :=
      execute_eq_ok_iff.mpr ⟨frames, hopens, hdecode, by simp [hnone]⟩
    obtain ⟨other, hother, status, hstatus, -⟩ := h text hok
    rw [hopens.unique hother, hstatus] at hnone
    cases hnone
  · intro h text hok
    obtain ⟨frames, hopens, hdecode, hsuccess⟩ := execute_eq_ok_iff.mp hok
    obtain ⟨status, hstatus⟩ :=
      Option.ne_none_iff_exists'.mp (h frames text hopens hdecode)
    exact ⟨frames, hopens, status, hstatus, of_decide_eq_true (hsuccess status hstatus)⟩

def breakingServer : Server := fun _ => {
  status := switchingProtocols
  frames := [.stdout (Utf8.encode "no status")] }

/-- A command whose session breaks off is successful, and its success has not been received. -/
theorem execute_succeeds_without_status :
    ¬ ∀ text, (execute breakingServer "ds" "nb-0" "nb" ["python", "-c", "import os"]).result =
        .ok text →
      ReceivesSuccess breakingServer
        (.exec "ds" "nb-0" "nb" ["python", "-c", "import os"]) := by
  intro h
  have hok : (execute breakingServer "ds" "nb-0" "nb" ["python", "-c", "import os"]).result =
      .ok "no status" := by
    decide +kernel
  obtain ⟨frames, ⟨-, -, rfl⟩, status, hstatus, -⟩ := h _ hok
  cases hstatus

end NotebookCheck.Cluster

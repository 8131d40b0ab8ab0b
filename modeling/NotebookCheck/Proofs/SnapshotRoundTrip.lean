import Mathlib.Data.List.Forall2
import NotebookCheck.Proofs.JsonDocument
import NotebookCheck.Snapshot.Encoding

/-!
Snapshots are read back from JSON.  The two halves meet at what describes a snapshot: whatever
describes it is read as this snapshot, and what is written describes it.  What is written is one
description of many; the others leave out what is empty or missing, have fields that nobody knows,
or have their fields in another order.
-/

namespace NotebookCheck

open Json

namespace Json

def slotOf (fields : List (String × Json)) (name : String) : Slot :=
  match fields.lookup name with
  | some value => .given value
  | none => .absent

theorem slots?_object (names : List String) (fields : List (String × Json)) :
    slots? names (.object fields) = some (names.map (slotOf fields)) := rfl

def Holds (p : Json → Prop) (fields : List (String × Json)) (name : String) : Prop :=
  ∃ j, fields.lookup name = some j ∧ p j

/-- A field has a text; without one it is null or absent. -/
def HoldsText (text : Option String) (fields : List (String × Json)) (name : String) : Prop :=
  match text with
  | some s => fields.lookup name = some (.string s)
  | none => fields.lookup name = some .null ∨ fields.lookup name = none

/-- A list whose items are of a kind, each for one of the values in their order. -/
def IsListOf {α : Type} (p : α → Json → Prop) (as : List α) (j : Json) : Prop :=
  ∃ items, j = .array items ∧ List.Forall₂ p as items

section Slots

variable {α : Type} {read : Json → Option α} {a : α} {fields : List (String × Json)}
  {name : String}

theorem Holds.mono {p q : Json → Prop} (h : Holds p fields name) (hpq : ∀ j, p j → q j) :
    Holds q fields name := by
  obtain ⟨j, hlookup, hj⟩ := h
  exact ⟨j, hlookup, hpq j hj⟩

theorem required_slotOf (h : Holds (fun j => read j = some a) fields name) :
    (slotOf fields name).required read = some a := by
  obtain ⟨j, hlookup, hread⟩ := h
  simp [slotOf, hlookup, Slot.required, hread]

theorem required_given {value : Json} (h : Holds (· = value) fields name)
    (hread : read value = some a) : (slotOf fields name).required read = some a :=
  required_slotOf (h.mono (by rintro _ rfl; exact hread))

theorem required_text {s : String} (h : Holds (· = .string s) fields name) :
    (slotOf fields name).required text? = some s := required_given h rfl

theorem required_bool {b : Bool} (h : Holds (· = .bool b) fields name) :
    (slotOf fields name).required bool? = some b := required_given h rfl

theorem list?_of_isListOf {p : α → Json → Prop} (hread : ∀ a j, p a j → read j = some a)
    {as : List α} {j : Json} (h : IsListOf p as j) : list? read j = some as := by
  obtain ⟨items, rfl, hitems⟩ := h
  rw [list?]
  induction hitems with
  | nil => rfl
  | cons ha _ ih => simp [hread _ _ ha, ih]

theorem required_list {p : α → Json → Prop} (hread : ∀ a j, p a j → read j = some a)
    {as : List α} (h : Holds (IsListOf p as) fields name) :
    (slotOf fields name).required (list? read) = some as :=
  required_slotOf (h.mono fun _ => list?_of_isListOf hread)

theorem defaulted_slotOf {p : Json → Prop} {default : α} (hread : ∀ j, p j → read j = some a)
    (h : Holds p fields name ∨ fields.lookup name = none ∧ a = default) :
    (slotOf fields name).defaulted default read = some a := by
  obtain ⟨j, hlookup, hj⟩ | ⟨hlookup, rfl⟩ := h
  · simp [slotOf, hlookup, Slot.defaulted, hread j hj]
  · simp [slotOf, hlookup, Slot.defaulted]

theorem nullable_slotOf {text : Option String} (h : HoldsText text fields name) :
    (slotOf fields name).nullable text? = some text := by
  cases text with
  | some s =>
      have hlookup : fields.lookup name = some (.string s) := h
      simp [slotOf, hlookup, Slot.nullable, text?]
  | none =>
      obtain hlookup | hlookup := h <;> simp [slotOf, hlookup, Slot.nullable]

theorem holdsText_of_lookup {text : Option String} (h : fields.lookup name = some (ofText? text)) :
    HoldsText text fields name := by
  cases text with
  | some s => exact h
  | none => exact .inl h

end Slots

theorem isListOf_map {α : Type} {p : α → Json → Prop} {write : α → Json}
    (h : ∀ a, p a (write a)) (as : List α) : IsListOf p as (.array (as.map write)) :=
  ⟨_, rfl, List.forall₂_map_right_iff.mpr (List.forall₂_same.mpr fun a _ => h a)⟩

end Json

/-- An object with quantities in any order; of two for one resource the later one counts. -/
def AreQuantities (map : SortedMap String) (j : Json) : Prop :=
  ∃ entries : List (String × String),
    j = .object (entries.map fun e => (e.1, .string e.2)) ∧ map = .ofList entries

/-- An object with the two kinds of quantities, of which those without any may be left out. -/
def Resources.DescribedBy (r : Resources) (j : Json) : Prop :=
  ∃ fields, j = .object fields ∧
    (Holds (AreQuantities r.requests) fields "requests" ∨
      fields.lookup "requests" = none ∧ r.requests = .empty) ∧
    (Holds (AreQuantities r.limits) fields "limits" ∨
      fields.lookup "limits" = none ∧ r.limits = .empty)

/-- An object with a name, an image if there is one, and resources that may be left out if there
are none. -/
def Container.DescribedBy (c : Container) (j : Json) : Prop :=
  ∃ fields, j = .object fields ∧ Holds (· = .string c.name) fields "name" ∧
    HoldsText c.image fields "image" ∧
    (Holds c.resources.DescribedBy fields "resources" ∨
      fields.lookup "resources" = none ∧ c.resources = {})

/-- The name of an alternative that carries nothing, by itself or as a field that is null. -/
def NamedBy (name : String) (j : Json) : Prop :=
  j = .string name ∨ j = .object [(name, .null)]

def Phase.DescribedBy : Phase → Json → Prop
  | unknown name, j => j = .object [("Unknown", .string name)]
  | phase, j => NamedBy phase.name j

def ContainerState.DescribedBy : ContainerState → Json → Prop
  | waiting reason message, j => ∃ fields, j = .object [("Waiting", .object fields)] ∧
      HoldsText reason fields "reason" ∧ HoldsText message fields "message"
  | running, j => NamedBy "Running" j
  | terminated exitCode reason, j => ∃ fields, j = .object [("Terminated", .object fields)] ∧
      Holds (· = .int exitCode.toInt) fields "exit_code" ∧ HoldsText reason fields "reason"
  | unknown, j => NamedBy "Unknown" j

/-- An object with a name, whether the container is ready, and its state. -/
def ContainerStatus.DescribedBy (s : ContainerStatus) (j : Json) : Prop :=
  ∃ fields, j = .object fields ∧ Holds (· = .string s.name) fields "name" ∧
    Holds (· = .bool s.ready) fields "ready" ∧ Holds s.state.DescribedBy fields "state"

def Condition.DescribedBy (c : Condition) (j : Json) : Prop :=
  ∃ fields, j = .object fields ∧ Holds (· = .string c.kind) fields "kind" ∧
    Holds (· = .string c.status) fields "status"

/-- An object with all parts of a snapshot.  Here as in all of its parts, other fields do not
matter. -/
def Snapshot.DescribedBy (s : Snapshot) (j : Json) : Prop :=
  ∃ fields, j = .object fields ∧ Holds (· = .string s.name) fields "name" ∧
    Holds s.phase.DescribedBy fields "phase" ∧
    Holds (IsListOf Container.DescribedBy s.containers) fields "containers" ∧
    Holds (IsListOf ContainerStatus.DescribedBy s.statuses) fields "container_statuses" ∧
    Holds (IsListOf Condition.DescribedBy s.conditions) fields "conditions"

section Reading

variable {j : Json}

theorem quantitiesOfJson?_of_areQuantities {map : SortedMap String} (h : AreQuantities map j) :
    quantitiesOfJson? j = some map := by
  obtain ⟨entries, rfl, rfl⟩ := h
  have hfields : fields? text? (.object (entries.map fun e => (e.1, .string e.2))) =
      some entries := by
    rw [fields?]
    induction entries with
    | nil => rfl
    | cons e entries ih =>
        simp only [List.map_cons, List.mapM_cons, ih]
        rfl
  rw [quantitiesOfJson?, hfields, Option.map_some]

theorem Resources.ofJson?_of_describedBy {r : Resources} (h : r.DescribedBy j) :
    ofJson? j = some r := by
  obtain ⟨fields, rfl, hrequests, hlimits⟩ := h
  have hr := defaulted_slotOf (fun _ => quantitiesOfJson?_of_areQuantities) hrequests
  have hl := defaulted_slotOf (fun _ => quantitiesOfJson?_of_areQuantities) hlimits
  simp [ofJson?, slots?_object, hr, hl]

theorem Container.ofJson?_of_describedBy {c : Container} (h : c.DescribedBy j) :
    ofJson? j = some c := by
  obtain ⟨fields, rfl, hname, himage, hresources⟩ := h
  have hr := defaulted_slotOf (fun _ => Resources.ofJson?_of_describedBy) hresources
  simp [ofJson?, slots?_object, required_text hname, nullable_slotOf himage, hr]

theorem Phase.ofJson?_of_describedBy {p : Phase} (h : p.DescribedBy j) : ofJson? j = some p := by
  cases p with
  | unknown name =>
      obtain rfl := h
      rfl
  | pending | running | succeeded | failed => obtain rfl | rfl := h <;> rfl

theorem exitCode?_toInt (code : Int32) : exitCode? (.int code.toInt) = some code := by
  have hleast := Int32.minValue_le_toInt code
  have hmost := Int32.toInt_le code
  rw [exitCode?, intIn?, decide_eq_true hleast, decide_eq_true hmost]
  simp

theorem ContainerState.ofJson?_of_describedBy {s : ContainerState} (h : s.DescribedBy j) :
    ofJson? j = some s := by
  cases s with
  | waiting reason message =>
      obtain ⟨fields, rfl, hreason, hmessage⟩ := h
      simp [ofJson?, variant?, slots?_object, nullable_slotOf hreason, nullable_slotOf hmessage]
  | terminated exitCode reason =>
      obtain ⟨fields, rfl, hcode, hreason⟩ := h
      have hc : (slotOf fields "exit_code").required exitCode? = some exitCode :=
        required_given hcode (exitCode?_toInt exitCode)
      simp [ofJson?, variant?, slots?_object, hc, nullable_slotOf hreason]
  | running | unknown => obtain rfl | rfl := h <;> rfl

theorem ContainerStatus.ofJson?_of_describedBy {s : ContainerStatus} (h : s.DescribedBy j) :
    ofJson? j = some s := by
  obtain ⟨fields, rfl, hname, hready, hstate⟩ := h
  have hs := required_slotOf (hstate.mono fun _ => ContainerState.ofJson?_of_describedBy)
  simp [ofJson?, slots?_object, required_text hname, required_bool hready, hs]

theorem Condition.ofJson?_of_describedBy {c : Condition} (h : c.DescribedBy j) :
    ofJson? j = some c := by
  obtain ⟨fields, rfl, hkind, hstatus⟩ := h
  simp [ofJson?, slots?_object, required_text hkind, required_text hstatus]

theorem Snapshot.ofJson?_of_describedBy {s : Snapshot} (h : s.DescribedBy j) :
    ofJson? j = some s := by
  obtain ⟨fields, rfl, hname, hphase, hcontainers, hstatuses, hconditions⟩ := h
  have hp := required_slotOf (hphase.mono fun _ => Phase.ofJson?_of_describedBy)
  have hc := required_list (p := Container.DescribedBy)
    (fun _ _ => Container.ofJson?_of_describedBy) hcontainers
  have hs := required_list (p := ContainerStatus.DescribedBy)
    (fun _ _ => ContainerStatus.ofJson?_of_describedBy) hstatuses
  have hd := required_list (p := Condition.DescribedBy)
    (fun _ _ => Condition.ofJson?_of_describedBy) hconditions
  simp [ofJson?, slots?_object, required_text hname, hp, hc, hs, hd]

end Reading

theorem areQuantities_toJson (map : SortedMap String) : AreQuantities map (quantitiesToJson map) :=
  ⟨map.entries, rfl, map.ofList_entries.symm⟩

theorem Resources.describedBy_toJson (r : Resources) : r.DescribedBy r.toJson :=
  ⟨_, rfl, .inl ⟨_, rfl, areQuantities_toJson r.requests⟩,
    .inl ⟨_, rfl, areQuantities_toJson r.limits⟩⟩

theorem Container.describedBy_toJson (c : Container) : c.DescribedBy c.toJson :=
  ⟨_, rfl, ⟨_, rfl, rfl⟩, holdsText_of_lookup rfl, .inl ⟨_, rfl, c.resources.describedBy_toJson⟩⟩

theorem Phase.describedBy_toJson (p : Phase) : p.DescribedBy p.toJson := by
  cases p with
  | unknown name => exact rfl
  | pending | running | succeeded | failed => exact .inl rfl

theorem ContainerState.describedBy_toJson (s : ContainerState) : s.DescribedBy s.toJson := by
  cases s with
  | waiting reason message => exact ⟨_, rfl, holdsText_of_lookup rfl, holdsText_of_lookup rfl⟩
  | terminated exitCode reason => exact ⟨_, rfl, ⟨_, rfl, rfl⟩, holdsText_of_lookup rfl⟩
  | running | unknown => exact .inl rfl

theorem ContainerStatus.describedBy_toJson (s : ContainerStatus) : s.DescribedBy s.toJson :=
  ⟨_, rfl, ⟨_, rfl, rfl⟩, ⟨_, rfl, rfl⟩, ⟨_, rfl, s.state.describedBy_toJson⟩⟩

theorem Condition.describedBy_toJson (c : Condition) : c.DescribedBy c.toJson :=
  ⟨_, rfl, ⟨_, rfl, rfl⟩, ⟨_, rfl, rfl⟩⟩

theorem Snapshot.describedBy_toJson (s : Snapshot) : s.DescribedBy s.toJson :=
  ⟨_, rfl, ⟨_, rfl, rfl⟩, ⟨_, rfl, s.phase.describedBy_toJson⟩,
    ⟨_, rfl, isListOf_map Container.describedBy_toJson s.containers⟩,
    ⟨_, rfl, isListOf_map ContainerStatus.describedBy_toJson s.statuses⟩,
    ⟨_, rfl, isListOf_map Condition.describedBy_toJson s.conditions⟩⟩

section Texts

variable (depth : ℕ)

theorem isReadable_ofText? (text : Option String) : IsReadable depth (ofText? text) := by
  cases text with
  | none => exact .null
  | some s => exact .string s

theorem isReadable_quantitiesToJson (map : SortedMap String) :
    IsReadable (depth + 1) (quantitiesToJson map) := by
  refine .object ?_ ?_
  · rw [List.map_map]
    exact map.nodup_keys
  · intro f hf
    obtain ⟨e, -, rfl⟩ := List.mem_map.mp hf
    exact .string e.2

theorem isReadable_array_map {α : Type} {write : α → Json} (h : ∀ a, IsReadable depth (write a))
    (as : List α) : IsReadable (depth + 1) (.array (as.map write)) := by
  refine .array fun item hitem => ?_
  obtain ⟨a, -, rfl⟩ := List.mem_map.mp hitem
  exact h a

theorem Resources.isReadable_toJson (r : Resources) : IsReadable (depth + 2) r.toJson :=
  .object (by simp) (by simp [isReadable_quantitiesToJson])

theorem Container.isReadable_toJson (c : Container) : IsReadable (depth + 3) c.toJson :=
  .object (by simp)
    (by simp [IsReadable.string, isReadable_ofText?, Resources.isReadable_toJson])

theorem Phase.isReadable_toJson (p : Phase) : IsReadable (depth + 1) p.toJson := by
  cases p with
  | unknown name => exact .object (by simp) (by simp [IsReadable.string])
  | pending | running | succeeded | failed => exact .string _

theorem isLong_toInt (code : Int32) : IsLong code.toInt :=
  ⟨Int.le_trans (by decide) code.minValue_le_toInt, Int.le_trans code.toInt_le (by decide)⟩

theorem ContainerState.isReadable_toJson (s : ContainerState) :
    IsReadable (depth + 2) s.toJson := by
  cases s with
  | waiting reason message =>
      have h : IsReadable (depth + 1)
          (.object [("reason", ofText? reason), ("message", ofText? message)]) :=
        .object (by simp) (by simp [isReadable_ofText?])
      exact .object (by simp) (by simpa using h)
  | terminated exitCode reason =>
      have h : IsReadable (depth + 1)
          (.object [("exit_code", .int exitCode.toInt), ("reason", ofText? reason)]) :=
        .object (by simp) (by simp [isReadable_ofText?, IsReadable.int (isLong_toInt exitCode)])
      exact .object (by simp) (by simpa using h)
  | running | unknown => exact .string _

theorem ContainerStatus.isReadable_toJson (s : ContainerStatus) :
    IsReadable (depth + 3) s.toJson :=
  .object (by simp)
    (by simp [IsReadable.string, IsReadable.bool, ContainerState.isReadable_toJson])

theorem Condition.isReadable_toJson (c : Condition) : IsReadable (depth + 1) c.toJson :=
  .object (by simp) (by simp [IsReadable.string])

theorem Snapshot.isReadable_toJson (s : Snapshot) : IsReadable (depth + 5) s.toJson := by
  have hcontainers := isReadable_array_map _ (Container.isReadable_toJson depth) s.containers
  have hstatuses := isReadable_array_map _ (ContainerStatus.isReadable_toJson depth) s.statuses
  have hconditions := isReadable_array_map _ (Condition.isReadable_toJson (depth + 2)) s.conditions
  exact .object (by simp)
    (by simp [IsReadable.string, Phase.isReadable_toJson, hcontainers, hstatuses, hconditions])

end Texts

namespace Snapshot

def writtenBack? (j : Json) : Option Json := (ofJson? j).map toJson

theorem read?_compact_toJson (s : Snapshot) : Json.read? s.toJson.compact = some s.toJson :=
  (s.isReadable_toJson 122).read?_compact

theorem ofJson?_toJson (s : Snapshot) : ofJson? s.toJson = some s :=
  ofJson?_of_describedBy s.describedBy_toJson

theorem writtenBack?_of_ofJson? {s : Snapshot} {j : Json} (h : ofJson? j = some s) :
    writtenBack? j = some s.toJson := by
  rw [writtenBack?, h, Option.map_some]

/-- A snapshot is read back from what is written of it, as a value and as a text, and it is read
from everything that describes it.  Writing back what was read, however it was written, changes
nothing of the snapshot, and writing back once more changes nothing at all. -/
theorem snapshots_are_read_back (s : Snapshot) :
    ofJson? s.toJson = some s ∧ (Json.read? s.toJson.compact).bind ofJson? = some s ∧
      (∀ j, s.DescribedBy j → ofJson? j = some s) ∧
      ∀ j, ofJson? j = some s → ∃ back, writtenBack? j = some back ∧
        ofJson? back = some s ∧ writtenBack? back = some back := by
  refine ⟨s.ofJson?_toJson, ?_, fun _ => ofJson?_of_describedBy, ?_⟩
  · rw [s.read?_compact_toJson, Option.bind_some, s.ofJson?_toJson]
  · intro j hread
    exact ⟨s.toJson, writtenBack?_of_ofJson? hread, s.ofJson?_toJson,
      writtenBack?_of_ofJson? s.ofJson?_toJson⟩

/-- A snapshot in a phase that has the name of another one, with containers in all states. -/
def crowdedSnapshot : Snapshot where
  name := "test-notebook-0"
  phase := .unknown "Running"
  containers := [
    { name := "notebook", image := some "jupyter",
      resources := { limits := .ofList [("cpu", "200m"), ("memory", "128Mi")] } },
    { name := "kube-rbac-proxy" }]
  statuses := [
    { name := "notebook", ready := true, state := .running },
    { name := "kube-rbac-proxy", ready := false, state := .waiting (some "ImagePullBackOff") none },
    { name := "setup", ready := false, state := .terminated (-1) none },
    { name := "logger", ready := false, state := .unknown }]
  conditions := [{ kind := "Ready", status := "False" }]

/-- The crowded snapshot in another order, with fields that nobody knows and one quantity twice,
and without what is empty or missing. -/
def looseJson : Json :=
  .object [
    ("uid", .int 7),
    ("conditions", .array [.object [("status", .string "False"), ("kind", .string "Ready")]]),
    ("phase", .object [("Unknown", .string "Running")]),
    ("containers", .array [
      .object [("name", .string "notebook"), ("image", .string "jupyter"),
        ("resources", .object [("limits", .object [("memory", .string "64Mi"),
          ("cpu", .string "200m"), ("memory", .string "128Mi")])])],
      .object [("name", .string "kube-rbac-proxy"), ("ports", .array [])]]),
    ("container_statuses", .array [
      .object [("name", .string "notebook"), ("ready", .bool true),
        ("state", .object [("Running", .null)])],
      .object [("name", .string "kube-rbac-proxy"), ("ready", .bool false),
        ("state", .object [("Waiting", .object [("reason", .string "ImagePullBackOff")])])],
      .object [("name", .string "setup"), ("ready", .bool false),
        ("state", .object [("Terminated", .object [("exit_code", .int (-1))])])],
      .object [("name", .string "logger"), ("ready", .bool false), ("state", .string "Unknown")]]),
    ("name", .string "test-notebook-0")]

theorem crowdedSnapshot_describedBy : crowdedSnapshot.DescribedBy looseJson := by
  refine ⟨_, rfl, ⟨_, rfl, rfl⟩, ⟨_, rfl, rfl⟩, ⟨_, rfl, _, rfl, ?containers⟩,
    ⟨_, rfl, _, rfl, ?statuses⟩, ⟨_, rfl, _, rfl, ?conditions⟩⟩
  case containers =>
    have hlimits : AreQuantities (.ofList [("cpu", "200m"), ("memory", "128Mi")])
        (.object [("memory", .string "64Mi"), ("cpu", .string "200m"),
          ("memory", .string "128Mi")]) :=
      ⟨[("memory", "64Mi"), ("cpu", "200m"), ("memory", "128Mi")], rfl, by decide⟩
    refine .cons ⟨_, rfl, ⟨_, rfl, rfl⟩, rfl, .inl ⟨_, rfl, ?_⟩⟩ (.cons ?_ .nil)
    · exact ⟨_, rfl, .inr ⟨rfl, rfl⟩, .inl ⟨_, rfl, hlimits⟩⟩
    · exact ⟨_, rfl, ⟨_, rfl, rfl⟩, .inr rfl, .inr ⟨rfl, rfl⟩⟩
  case statuses =>
    have hwaiting : (ContainerState.waiting (some "ImagePullBackOff") none).DescribedBy
        (.object [("Waiting", .object [("reason", .string "ImagePullBackOff")])]) :=
      ⟨_, rfl, rfl, .inr rfl⟩
    have hterminated : (ContainerState.terminated (-1) none).DescribedBy
        (.object [("Terminated", .object [("exit_code", .int (-1))])]) :=
      ⟨_, rfl, ⟨_, rfl, rfl⟩, .inr rfl⟩
    refine .cons ⟨_, rfl, ⟨_, rfl, rfl⟩, ⟨_, rfl, rfl⟩, ⟨_, rfl, .inr rfl⟩⟩ ?_
    refine .cons ⟨_, rfl, ⟨_, rfl, rfl⟩, ⟨_, rfl, rfl⟩, ⟨_, rfl, hwaiting⟩⟩ ?_
    refine .cons ⟨_, rfl, ⟨_, rfl, rfl⟩, ⟨_, rfl, rfl⟩, ⟨_, rfl, hterminated⟩⟩ ?_
    exact .cons ⟨_, rfl, ⟨_, rfl, rfl⟩, ⟨_, rfl, rfl⟩, ⟨_, rfl, .inl rfl⟩⟩ .nil
  case conditions =>
    exact .cons ⟨_, rfl, ⟨_, rfl, rfl⟩, ⟨_, rfl, rfl⟩⟩ .nil

theorem crowded_snapshot_is_read_back :
    (Json.read? crowdedSnapshot.toJson.compact).bind ofJson? = some crowdedSnapshot ∧
      ∃ back, writtenBack? looseJson = some back ∧ ofJson? back = some crowdedSnapshot ∧
        writtenBack? back = some back := by
  obtain ⟨-, htext, hdescribed, hback⟩ := snapshots_are_read_back crowdedSnapshot
  exact ⟨htext, hback looseJson (hdescribed looseJson crowdedSnapshot_describedBy)⟩

end Snapshot

end NotebookCheck

import Mathlib.Data.List.Basic
import NotebookCheck.Cluster.Pod
import NotebookCheck.Proofs.Work
import NotebookCheck.Sidecar

namespace NotebookCheck

namespace ResourceField

theorem mem_all (f : ResourceField) : f ∈ all := by
  cases f <;> decide

theorem ofSuffix?_annotationSuffix (f : ResourceField) : ofSuffix? f.annotationSuffix = some f := by
  cases f <;> decide

theorem ofSuffix?_eq_none {suffix : String} (h : ∀ f : ResourceField, suffix ≠ f.annotationSuffix) :
    ofSuffix? suffix = none := by
  rw [ofSuffix?, List.find?_eq_none]
  intro f _ heq
  exact h f (of_decide_eq_true heq).symm

end ResourceField

namespace Sidecar

def IsSidecarKey (key : String) : Prop := ∃ suffix, key = annotationStart ++ suffix

/-- A key of an annotation about the sidecar that says nothing known. -/
def IsUnknownKey (key : String) : Prop :=
  ∃ suffix, key = annotationStart ++ suffix ∧ ∀ f : ResourceField, suffix ≠ f.annotationSuffix

/-- The value that annotations give a field: that of the last of them with the field's key. -/
def annotated (annotations : List (String × String)) (f : ResourceField) : Option String :=
  ((annotations.filter (·.1 = f.annotationKey)).getLast?).map fun pair => Text.trim pair.2

def unknownKey (key : String) : Fault :=
  .validation s!"unknown auth sidecar annotation '{key}'"

def noneGiven : Fault :=
  .validation s!"no '{annotationStart}*' annotations given"

/-- What the reading of annotations comes to: it fails exactly if a key is not known or none is
about the sidecar, the first unknown key is named, and else each field has its annotated value. -/
structure IsReading (annotations : List (String × String)) (r : Except Fault Expected) : Prop where
  error_iff : (∃ fault, r = .error fault) ↔
    (∃ pair ∈ annotations, IsUnknownKey pair.1) ∨ ∀ pair ∈ annotations, ¬ IsSidecarKey pair.1
  unknown : ∀ before key value after, annotations = before ++ (key, value) :: after →
    (∀ pair ∈ before, ¬ IsUnknownKey pair.1) → IsUnknownKey key → r = .error (unknownKey key)
  none_given : (∀ pair ∈ annotations, ¬ IsSidecarKey pair.1) → r = .error noneGiven
  get?_eq : ∀ e, r = .ok e → ∀ f, e.get? f = annotated annotations f

/-- A list of mismatches is the whole account of how actual quantities differ from expected ones:
it has one for each field with a quantity that is expected and not there, in the order of the
fields. -/
structure IsAccount (expected actual : ResourceField → Option String) (found : List Mismatch) :
    Prop where
  mem_iff : ∀ m : Mismatch, m ∈ found ↔
    expected m.field = some m.expected ∧ m.actual = actual m.field ∧ m.actual ≠ some m.expected
  ordered : (found.map (·.field)).Sublist [.cpuRequest, .memoryRequest, .cpuLimit, .memoryLimit]
  nil_iff : found = [] ↔ ∀ f value, expected f = some value → actual f = some value

theorem isSidecarKey_annotationKey (f : ResourceField) : IsSidecarKey f.annotationKey := ⟨_, rfl⟩

theorem IsUnknownKey.isSidecarKey {key : String} (h : IsUnknownKey key) : IsSidecarKey key := by
  obtain ⟨suffix, rfl, -⟩ := h
  exact ⟨suffix, rfl⟩

theorem IsSidecarKey.known_or_unknown {key : String} (h : IsSidecarKey key) :
    (∃ f : ResourceField, key = f.annotationKey) ∨ IsUnknownKey key := by
  obtain ⟨suffix, rfl⟩ := h
  by_cases hknown : ∃ f : ResourceField, suffix = f.annotationSuffix
  · obtain ⟨f, rfl⟩ := hknown
    exact .inl ⟨f, rfl⟩
  · exact .inr ⟨suffix, rfl, fun f hf => hknown ⟨f, hf⟩⟩

theorem dropStart?_append (start rest : String) : dropStart? start (start ++ rest) = some rest := by
  simp [dropStart?, ← String.length_toList]

theorem dropStart?_eq_none {start s : String} (h : ¬ ∃ rest, s = start ++ rest) :
    dropStart? start s = none := by
  rw [dropStart?, if_neg]
  intro hprefix
  obtain ⟨rest, hrest⟩ := List.isPrefixOf_iff_prefix.mp hprefix
  exact h ⟨String.ofList rest, by rw [← String.toList_inj]; simp [hrest]⟩

section Annotated

variable (pair : String × String) (a : List (String × String)) (f : ResourceField)

theorem annotated_cons :
    annotated (pair :: a) f =
      (annotated a f).or (if pair.1 = f.annotationKey then some (Text.trim pair.2) else none) := by
  unfold annotated
  by_cases h : pair.1 = f.annotationKey
  · rw [List.filter_cons_of_pos (by simpa using h), List.getLast?_cons, if_pos h]
    cases (a.filter (·.1 = f.annotationKey)).getLast? <;> rfl
  · rw [List.filter_cons_of_neg (by simpa using h), if_neg h, Option.or_none]

theorem annotated_eq_none_iff :
    annotated a f = none ↔ ∀ pair ∈ a, pair.1 ≠ f.annotationKey := by
  simp [annotated]

theorem annotated_eq_some_iff (hdistinct : (a.map (·.1)).Nodup) (v : String) :
    annotated a f = some v ↔ ∃ value, (f.annotationKey, value) ∈ a ∧ Text.trim value = v := by
  induction a with
  | nil => simp [annotated]
  | cons pair rest ih =>
      obtain ⟨key, value⟩ := pair
      obtain ⟨hnew, hrest⟩ := List.nodup_cons.mp hdistinct
      rw [annotated_cons]
      by_cases hkey : key = f.annotationKey
      · subst hkey
        have hnot : ∀ other, (f.annotationKey, other) ∉ rest :=
          fun other hmem => hnew (List.mem_map.mpr ⟨_, hmem, rfl⟩)
        have hnone : annotated rest f = none :=
          (annotated_eq_none_iff rest f).mpr fun pair hmem heq => hnot pair.2 (heq ▸ hmem)
        simp [hnone, hnot]
      · have hkey' : f.annotationKey ≠ key := fun heq => hkey heq.symm
        simp [hkey, hkey', ih hrest]

theorem annotated_perm {a b : List (String × String)} (h : a.Perm b)
    (hdistinct : (a.map (·.1)).Nodup) : annotated b f = annotated a f := by
  have hdistinct' : (b.map (·.1)).Nodup := (h.map _).nodup_iff.mp hdistinct
  ext v
  rw [annotated_eq_some_iff b f hdistinct', annotated_eq_some_iff a f hdistinct]
  simp only [h.mem_iff]

end Annotated

namespace Expected

theorem get?_set (e : Expected) (f g : ResourceField) (value : String) :
    (e.set f value).get? g = if g = f then some value else e.get? g := by
  cases f <;> cases g <;> rfl

theorem ext_get? {e e' : Expected} (h : ∀ f, e.get? f = e'.get? f) : e = e' := by
  cases e
  cases e'
  simp only [mk.injEq]
  exact ⟨h .cpuRequest, h .memoryRequest, h .cpuLimit, h .memoryLimit⟩

theorem size_eq_zero_iff (e : Expected) : e.size = 0 ↔ ∀ f, e.get? f = none := by
  simp [size, List.countP_eq_zero, ResourceField.mem_all]

theorem annotate_annotationKey (e : Expected) (f : ResourceField) (value : String) :
    e.annotate (f.annotationKey, value) = .ok (e.set f (Text.trim value)) := by
  simp only [annotate, ResourceField.annotationKey, dropStart?_append,
    ResourceField.ofSuffix?_annotationSuffix]

theorem annotate_of_isUnknownKey (e : Expected) {key : String} (value : String)
    (h : IsUnknownKey key) : e.annotate (key, value) = .error (unknownKey key) := by
  obtain ⟨suffix, rfl, hunknown⟩ := h
  simp only [annotate, dropStart?_append, ResourceField.ofSuffix?_eq_none hunknown]
  rfl

theorem annotate_of_not_isSidecarKey (e : Expected) {key : String} (value : String)
    (h : ¬ IsSidecarKey key) : e.annotate (key, value) = .ok e := by
  simp only [annotate, dropStart?_eq_none h]

/-- One annotation with a key that is not unknown changes the field of that key alone. -/
theorem annotate_of_not_isUnknownKey (e : Expected) (pair : String × String)
    (h : ¬ IsUnknownKey pair.1) :
    ∃ e', e.annotate pair = .ok e' ∧ ∀ f, e'.get? f =
      (if pair.1 = f.annotationKey then some (Text.trim pair.2) else none).or (e.get? f) := by
  obtain ⟨key, value⟩ := pair
  by_cases hkey : IsSidecarKey key
  · obtain ⟨g, rfl⟩ := hkey.known_or_unknown.resolve_right h
    refine ⟨_, annotate_annotationKey e g value, fun f => ?_⟩
    rw [get?_set]
    cases f <;> cases g <;> rfl
  · refine ⟨e, annotate_of_not_isSidecarKey e value hkey, fun f => ?_⟩
    have hne : key ≠ f.annotationKey := fun heq => hkey (heq ▸ isSidecarKey_annotationKey f)
    rw [if_neg hne, Option.none_or]

theorem foldlM_annotate (e : Expected) (a : List (String × String))
    (h : ∀ pair ∈ a, ¬ IsUnknownKey pair.1) :
    ∃ e', a.foldlM annotate e = .ok e' ∧ ∀ f, e'.get? f = (annotated a f).or (e.get? f) := by
  induction a generalizing e with
  | nil => exact ⟨e, rfl, fun f => rfl⟩
  | cons pair rest ih =>
      obtain ⟨e₁, hstep, hget₁⟩ := annotate_of_not_isUnknownKey e pair (h pair (by simp))
      obtain ⟨e₂, hrest, hget₂⟩ := ih e₁ fun pair hmem => h pair (List.mem_cons_of_mem _ hmem)
      refine ⟨e₂, ?_, fun f => ?_⟩
      · rw [List.foldlM_cons, hstep]
        exact hrest
      · rw [hget₂, hget₁, annotated_cons, Option.or_assoc]

theorem ofAnnotations_of_isUnknownKey (before : List (String × String)) (key value : String)
    (after : List (String × String)) (hbefore : ∀ pair ∈ before, ¬ IsUnknownKey pair.1)
    (hkey : IsUnknownKey key) :
    ofAnnotations (before ++ (key, value) :: after) = .error (unknownKey key) := by
  obtain ⟨e, he, -⟩ := foldlM_annotate {} before hbefore
  have hfold : (before ++ (key, value) :: after).foldlM annotate {} = .error (unknownKey key) := by
    rw [List.foldlM_append, he]
    change List.foldlM annotate e ((key, value) :: after) = _
    rw [List.foldlM_cons, annotate_of_isUnknownKey e value hkey]
    rfl
  rw [ofAnnotations, hfold]
  rfl

theorem ofAnnotations_of_known (a : List (String × String))
    (h : ∀ pair ∈ a, ¬ IsUnknownKey pair.1) :
    ∃ e : Expected, (∀ f, e.get? f = annotated a f) ∧
      ofAnnotations a = if e.size = 0 then .error noneGiven else .ok e := by
  obtain ⟨e, he, hget⟩ := foldlM_annotate {} a h
  refine ⟨e, fun f => ?_, ?_⟩
  · rw [hget]
    cases f <;> exact Option.or_none
  · rw [ofAnnotations, he]
    rfl

theorem ofAnnotations_of_not_isSidecarKey (a : List (String × String))
    (h : ∀ pair ∈ a, ¬ IsSidecarKey pair.1) : ofAnnotations a = .error noneGiven := by
  obtain ⟨e, hget, he⟩ := ofAnnotations_of_known a fun pair hmem hkey =>
    h pair hmem hkey.isSidecarKey
  have hnone : ∀ f, e.get? f = none := fun f => by
    rw [hget, annotated_eq_none_iff]
    exact fun pair hmem heq => h pair hmem (heq ▸ isSidecarKey_annotationKey f)
  rw [he, if_pos (e.size_eq_zero_iff.mpr hnone)]

theorem exists_first_isUnknownKey {a : List (String × String)}
    (h : ∃ pair ∈ a, IsUnknownKey pair.1) :
    ∃ before key value after, a = before ++ (key, value) :: after ∧
      (∀ pair ∈ before, ¬ IsUnknownKey pair.1) ∧ IsUnknownKey key := by
  induction a with
  | nil => simp at h
  | cons pair rest ih =>
      by_cases hpair : IsUnknownKey pair.1
      · exact ⟨[], pair.1, pair.2, rest, rfl, by simp, hpair⟩
      · have hrest : ∃ other ∈ rest, IsUnknownKey other.1 := by simpa [hpair] using h
        obtain ⟨before, key, value, after, rfl, hbefore, hkey⟩ := ih hrest
        exact ⟨pair :: before, key, value, after, rfl, by simpa [hpair] using hbefore, hkey⟩

theorem exists_ofAnnotations {a : List (String × String)}
    (hknown : ∀ pair ∈ a, ¬ IsUnknownKey pair.1) (hkey : ∃ pair ∈ a, IsSidecarKey pair.1) :
    ∃ e, ofAnnotations a = .ok e ∧ ∀ f, e.get? f = annotated a f := by
  obtain ⟨pair, hmem, hpair⟩ := hkey
  obtain ⟨f, hf⟩ := hpair.known_or_unknown.resolve_right (hknown pair hmem)
  obtain ⟨e, hget, he⟩ := ofAnnotations_of_known a hknown
  have hsize : e.size ≠ 0 := fun hzero => by
    have hnone := (hget f).symm.trans (e.size_eq_zero_iff.mp hzero f)
    exact (annotated_eq_none_iff a f).mp hnone pair hmem hf
  exact ⟨e, by rw [he, if_neg hsize], hget⟩

theorem ofAnnotations_error_iff (a : List (String × String)) :
    (∃ fault, ofAnnotations a = .error fault) ↔
      (∃ pair ∈ a, IsUnknownKey pair.1) ∨ ∀ pair ∈ a, ¬ IsSidecarKey pair.1 := by
  constructor
  · rintro ⟨fault, hfault⟩
    by_contra hgood
    obtain ⟨hknown, hkey⟩ := not_or.mp hgood
    obtain ⟨e, he, -⟩ := exists_ofAnnotations (by simpa using hknown) (by simpa using hkey)
    exact absurd (hfault.symm.trans he) nofun
  · rintro (hunknown | hforeign)
    · obtain ⟨before, key, value, after, rfl, hbefore, hkey⟩ := exists_first_isUnknownKey hunknown
      exact ⟨_, ofAnnotations_of_isUnknownKey before key value after hbefore hkey⟩
    · exact ⟨_, ofAnnotations_of_not_isSidecarKey a hforeign⟩

theorem ofAnnotations_eq_ok_iff (a : List (String × String)) (e : Expected) :
    ofAnnotations a = .ok e ↔ (∀ pair ∈ a, ¬ IsUnknownKey pair.1) ∧
      (∃ pair ∈ a, IsSidecarKey pair.1) ∧ ∀ f, e.get? f = annotated a f := by
  constructor
  · intro he
    have hgood : ¬ ∃ fault, ofAnnotations a = .error fault := by simp [he]
    rw [ofAnnotations_error_iff, not_or] at hgood
    have hknown : ∀ pair ∈ a, ¬ IsUnknownKey pair.1 := by simpa using hgood.1
    have hkey : ∃ pair ∈ a, IsSidecarKey pair.1 := by simpa using hgood.2
    obtain ⟨e', he', hget⟩ := exists_ofAnnotations hknown hkey
    obtain rfl := Except.ok.inj (he.symm.trans he')
    exact ⟨hknown, hkey, hget⟩
  · rintro ⟨hknown, hkey, hget⟩
    obtain ⟨e', he', hget'⟩ := exists_ofAnnotations hknown hkey
    rw [he', ext_get? fun f => (hget' f).trans (hget f).symm]

theorem isReading_ofAnnotations (a : List (String × String)) : IsReading a (ofAnnotations a) := by
  constructor
  case error_iff => exact ofAnnotations_error_iff a
  case unknown =>
      rintro before key value after rfl hbefore hkey
      exact ofAnnotations_of_isUnknownKey before key value after hbefore hkey
  case none_given => exact ofAnnotations_of_not_isSidecarKey a
  case get?_eq => exact fun e he => ((ofAnnotations_eq_ok_iff a e).mp he).2.2

theorem ofAnnotations_perm {a b : List (String × String)} {e : Expected}
    (h : ofAnnotations a = .ok e) (hperm : a.Perm b) (hdistinct : (a.map (·.1)).Nodup) :
    ofAnnotations b = .ok e := by
  obtain ⟨hknown, ⟨pair, hmem, hpair⟩, hget⟩ := (ofAnnotations_eq_ok_iff a e).mp h
  refine (ofAnnotations_eq_ok_iff b e).mpr ⟨fun other hother => ?_, ⟨pair, ?_, hpair⟩, fun f => ?_⟩
  · exact hknown other (hperm.mem_iff.mpr hother)
  · exact hperm.mem_iff.mp hmem
  · rw [hget, annotated_perm f hperm hdistinct]

end Expected

section Mismatches

variable (r : Resources) (e : Expected)

theorem mismatch?_eq_some_iff (f : ResourceField) (m : Mismatch) :
    mismatch? r e f = some m ↔ m.field = f ∧ e.get? f = some m.expected ∧
      m.actual = f.quantity? r ∧ m.actual ≠ some m.expected := by
  obtain ⟨field, expected, actual⟩ := m
  rw [mismatch?]
  cases he : e.get? f with
  | none => simp
  | some value =>
      simp only [Option.some.injEq]
      split
      case isTrue hsame => grind
      case isFalse hdiffers => grind

theorem map_field_filterMap_sublist (fields : List ResourceField) :
    ((fields.filterMap (mismatch? r e)).map (·.field)).Sublist fields := by
  induction fields with
  | nil => exact List.Sublist.slnil
  | cons f rest ih =>
      cases hm : mismatch? r e f with
      | none =>
          rw [List.filterMap_cons_none hm]
          exact ih.cons f
      | some m =>
          obtain ⟨rfl, -⟩ := (mismatch?_eq_some_iff r e f m).mp hm
          rw [List.filterMap_cons_some hm]
          exact ih.cons_cons m.field

theorem isAccount_filterMap :
    IsAccount e.get? (fun f => f.quantity? r) (ResourceField.all.filterMap (mismatch? r e)) := by
  constructor
  case mem_iff =>
      intro m
      rw [List.mem_filterMap]
      constructor
      · rintro ⟨f, -, hm⟩
        obtain ⟨rfl, h⟩ := (mismatch?_eq_some_iff r e f m).mp hm
        exact h
      · intro h
        exact ⟨m.field, m.field.mem_all, (mismatch?_eq_some_iff r e m.field m).mpr ⟨rfl, h⟩⟩
  case ordered => exact map_field_filterMap_sublist r e ResourceField.all
  case nil_iff =>
      rw [List.filterMap_eq_nil_iff]
      constructor
      · intro h f value he
        by_contra hdiffers
        have hm := (mismatch?_eq_some_iff r e f ⟨f, value, f.quantity? r⟩).mpr
          ⟨rfl, he, rfl, hdiffers⟩
        exact absurd ((h f f.mem_all).symm.trans hm) nofun
      · intro h f _
        rw [Option.eq_none_iff_forall_ne_some]
        intro m hm
        obtain ⟨rfl, he, hactual, hdiffers⟩ := (mismatch?_eq_some_iff r e f m).mp hm
        exact hdiffers (hactual.trans (h m.field m.expected he))

end Mismatches

def warning (s : Snapshot) (m : Mismatch) : Event :=
  ⟨.warn, m.message, [("target_name", .text s.name), ("field", .text m.field.label)]⟩

theorem run_forM_note {α : Type} (event : α → Event) (items : List α) (m : Moment) :
    (items.forM fun a => (Work.record (.event (event a)) : Attempt Unit)).run m =
      ⟨some (.ok ()), 0, items.map fun a => .event (event a)⟩ := by
  induction items generalizing m with
  | nil => rfl
  | cons a rest ih =>
      change ((liftM (Work.record (.event (event a))) : Attempt Unit) >>= fun _ =>
        rest.forM fun a => (Work.record (.event (event a)) : Attempt Unit)).run m = _
      rw [Attempt.run_lift_bind, Work.record_bind _ _ _ rfl, ih]
      rfl

theorem run_check (s : Snapshot) (e : Expected) (m : Moment) :
    (check s e).run m = ⟨some (mismatches s e), 0,
      ((mismatches s e).toOption.getD []).map fun mismatch => .event (warning s mismatch)⟩ := by
  rw [check]
  cases hfound : mismatches s e with
  | error fault => rfl
  | ok found =>
      rw [Attempt.run_ofExcept_bind_ok]
      change ((found.forM fun mismatch =>
        (Work.record (.event (warning s mismatch)) : Attempt Unit)) >>= fun _ =>
          (pure found : Attempt (List Mismatch))).run m = _
      rw [Attempt.run_bind_pure, run_forM_note]
      rfl

end Sidecar

namespace Cluster

def PodContainer.requested? (c : PodContainer) (resource : String) : Option String :=
  (c.resources.bind (·.requests)).bind (·.get? resource)

def PodContainer.limited? (c : PodContainer) (resource : String) : Option String :=
  (c.resources.bind (·.limits)).bind (·.get? resource)

def PodContainer.quantity? (c : PodContainer) : ResourceField → Option String
  | .cpuRequest => c.requested? "cpu"
  | .memoryRequest => c.requested? "memory"
  | .cpuLimit => c.limited? "cpu"
  | .memoryLimit => c.limited? "memory"

theorem PodContainer.quantity?_declared (c : PodContainer) (f : ResourceField) :
    f.quantity? c.declared.resources = c.quantity? f := by
  obtain ⟨name, image, _ | ⟨requests, limits⟩⟩ := c
  · cases f <;> rfl
  · cases f <;> cases requests <;> cases limits <;> rfl

theorem Pod.container?_snapshot (p : Pod) (name : String) :
    p.snapshot.container? name =
      (p.containers.find? (·.name = name)).map (·.declared) := by
  change (p.containers.map (·.declared)).find? _ = _
  rw [List.find?_map]
  rfl

theorem Pod.containerNames_snapshot (p : Pod) :
    p.snapshot.containerNames = p.containers.map (·.name) := by
  change (p.containers.map (·.declared)).map (·.name) = _
  rw [List.map_map]
  rfl

end Cluster

namespace Sidecar

open Cluster

theorem mismatches_of_absent (p : Pod) (e : Expected)
    (h : ∀ c ∈ p.containers, c.name ≠ containerName) :
    mismatches p.snapshot e = .error (.precondition
      (.containerNotFound (p.name.getD "") containerName (p.containers.map (·.name)))) := by
  have hnone : p.containers.find? (·.name = containerName) = none := by
    simpa [List.find?_eq_none] using h
  rw [mismatches, p.container?_snapshot, hnone, p.containerNames_snapshot]
  rfl

theorem mismatches_of_first (p : Pod) (e : Expected) (before : List PodContainer)
    (c : PodContainer) (after : List PodContainer) (h : p.containers = before ++ c :: after)
    (hbefore : ∀ d ∈ before, d.name ≠ containerName) (hname : c.name = containerName) :
    ∃ found, mismatches p.snapshot e = .ok found ∧ IsAccount e.get? c.quantity? found := by
  have hfind : p.containers.find? (·.name = containerName) = some c := by
    rw [h, List.find?_append, List.find?_eq_none.mpr (by simpa using hbefore)]
    simp [hname]
  refine ⟨ResourceField.all.filterMap (mismatch? c.declared.resources e), ?_, ?_⟩
  · rw [mismatches, p.container?_snapshot, hfind]
    rfl
  · have haccount := isAccount_filterMap c.declared.resources e
    simpa only [c.quantity?_declared] using haccount

/-- What the check of a pod's sidecar comes to: a pod without a container of the sidecar's name is
told with the names of those that it has, and else the first container of that name is compared. -/
structure IsVerdict (p : Pod) (expected : ResourceField → Option String)
    (r : Except Fault (List Mismatch)) : Prop where
  absent_iff : r = .error (.precondition
      (.containerNotFound (p.name.getD "") containerName (p.containers.map (·.name)))) ↔
    ∀ c ∈ p.containers, c.name ≠ containerName
  compared : ∀ before c after, p.containers = before ++ c :: after →
    (∀ d ∈ before, d.name ≠ containerName) → c.name = containerName →
      ∃ found, r = .ok found ∧ IsAccount expected c.quantity? found

theorem exists_first_sidecar {containers : List PodContainer}
    (h : ¬ ∀ c ∈ containers, c.name ≠ containerName) :
    ∃ before c after, containers = before ++ c :: after ∧
      (∀ d ∈ before, d.name ≠ containerName) ∧ c.name = containerName := by
  obtain ⟨c, hc⟩ := Option.isSome_iff_exists.mp
    (show (containers.find? (·.name = containerName)).isSome by simpa using h)
  obtain ⟨hname, before, after, hsplit, hbefore⟩ := List.find?_eq_some_iff_append.mp hc
  exact ⟨before, c, after, hsplit, by simpa using hbefore, by simpa using hname⟩

theorem isVerdict_mismatches (p : Pod) (e : Expected) :
    IsVerdict p e.get? (mismatches p.snapshot e) := by
  constructor
  case absent_iff =>
      refine ⟨fun hr => ?_, mismatches_of_absent p e⟩
      by_contra hpresent
      obtain ⟨before, c, after, hsplit, hbefore, hname⟩ := exists_first_sidecar hpresent
      obtain ⟨found, hfound, -⟩ := mismatches_of_first p e before c after hsplit hbefore hname
      exact absurd (hr.symm.trans hfound) nofun
  case compared => exact fun before c after => mismatches_of_first p e before c after

/-- Annotations and a pod's sidecar.  Annotations can be read exactly if one of them is about the
sidecar and none has an unknown key; what is read is the last value of each key, trimmed, in
whatever order they stand if the keys are distinct.  The check then compares it with the first
container of the sidecar's name, which the pod must have. -/
theorem check_ofAnnotations (a : List (String × String)) (p : Pod) (m : Moment) :
    IsReading a (Expected.ofAnnotations a) ∧
      ∀ e, Expected.ofAnnotations a = .ok e →
        (∀ b, a.Perm b → (a.map (·.1)).Nodup → Expected.ofAnnotations b = .ok e) ∧
        ∃ r, ((check p.snapshot e).run m).value = some r ∧ IsVerdict p (annotated a) r := by
  refine ⟨Expected.isReading_ofAnnotations a, fun e he => ?_⟩
  have hverdict := isVerdict_mismatches p e
  rw [funext ((Expected.isReading_ofAnnotations a).get?_eq e he)] at hverdict
  exact ⟨fun b => Expected.ofAnnotations_perm he, _, by rw [run_check], hverdict⟩

theorem check_ofAnnotations_of_repeated_keys :
    let a := [("notebooks.opendatahub.io/auth-sidecar-memory-limit", "64Mi"), ("team", "a"),
      ("notebooks.opendatahub.io/auth-sidecar-cpu-request", "100m"),
      ("notebooks.opendatahub.io/auth-sidecar-memory-limit", " 128Mi ")]
    let sidecar : PodContainer :=
      { name := "kube-rbac-proxy", resources := some {
        requests := some (.ofList [("cpu", "100m")]), limits := some (.ofList [("cpu", "1")]) } }
    let p : Pod :=
      { name := some "nb-0", containers := [⟨"nb", none, none⟩, sidecar,
        ⟨"kube-rbac-proxy", none, none⟩] }
    ∃ e, Expected.ofAnnotations a = .ok e ∧
      ∃ found, ((check p.snapshot e).run ⟨0, []⟩).value = some (.ok found) ∧
        ⟨.memoryLimit, "128Mi", none⟩ ∈ found := by
  intro a sidecar p
  obtain ⟨hreading, hcheck⟩ := check_ofAnnotations a p ⟨0, []⟩
  have he : Expected.ofAnnotations a =
      .ok { cpuRequest := some "100m", memoryLimit := some "128Mi" } := by decide +kernel
  obtain ⟨-, r, hr, hverdict⟩ := hcheck _ he
  obtain ⟨found, rfl, haccount⟩ := hverdict.compared [⟨"nb", none, none⟩] sidecar
    [⟨"kube-rbac-proxy", none, none⟩] rfl (by decide) rfl
  refine ⟨_, he, found, hr, (haccount.mem_iff _).mpr ⟨?_, by decide, by decide⟩⟩
  exact (hreading.get?_eq _ he .memoryLimit).symm

end Sidecar

end NotebookCheck

import Mathlib.Data.List.TakeDrop
import Mathlib.Data.List.TakeWhile
import NotebookCheck.Proofs.CommandCourse
import NotebookCheck.Proofs.SidecarResources

namespace NotebookCheck.CommandLine

open Text

/-- A word spells an annotation: it has a key before its first equals sign and a value after it,
and neither of them is blank. -/
def SpellsAnnotation (word : String) (pair : String × String) : Prop :=
  ∃ key value, word = key ++ "=" ++ value ∧ '=' ∉ key.toList ∧
    pair = (trim key, trim value) ∧ trim key ≠ "" ∧ trim value ≠ ""

/-- How a comparison of a sidecar's resources with what is asked for them ends with a target. -/
inductive ComparisonEnds (asked : ResourceField → Option String) (target : Target) (m : Moment) :
    Ended → Prop where
  | unanswered (h : target.onSnapshot m = .never) : ComparisonEnds asked target m .unending
  | failed {delay : ℕ} {fault : Fault} (h : target.onSnapshot m = .after delay (.error fault)) :
      ComparisonEnds asked target m (.refused fault.kind.exitCode)
  | missing {delay : ℕ} (h : target.onSnapshot m = .after delay (.ok none)) :
      ComparisonEnds asked target m (.refused 4)
  | withoutSidecar {delay : ℕ} {snapshot : Snapshot}
      (h : target.onSnapshot m = .after delay (.ok (some snapshot)))
      (hnone : snapshot.container? Sidecar.containerName = none) :
      ComparisonEnds asked target m (.refused 4)
  | compared {delay : ℕ} {snapshot : Snapshot} {sidecar : Container} {same : Bool}
      (h : target.onSnapshot m = .after delay (.ok (some snapshot)))
      (hsidecar : snapshot.container? Sidecar.containerName = some sidecar)
      (hsame : same = true ↔
        ∀ f value, asked f = some value → f.quantity? sidecar.resources = some value) :
      ComparisonEnds asked target m (.reported [same])

inductive ResourcesEnds (s : Surroundings) (config : Configuration) (o : ResourcesOptions)
    (m : Moment) : Ended → Prop where
  | misspelt (h : ¬ ∃ pairs, List.Forall₂ SpellsAnnotation o.annotations pairs) :
      ResourcesEnds s config o m (.refused 4)
  | unusable {pairs : List (String × String)}
      (h : List.Forall₂ SpellsAnnotation o.annotations pairs)
      (hbad : (∃ pair ∈ pairs, Sidecar.IsUnknownKey pair.1) ∨
        ∀ pair ∈ pairs, ¬ Sidecar.IsSidecarKey pair.1) : ResourcesEnds s config o m (.refused 4)
  | reaching {pairs : List (String × String)} {ended : Ended}
      (h : List.Forall₂ SpellsAnnotation o.annotations pairs)
      (hknown : ∀ pair ∈ pairs, ¬ Sidecar.IsUnknownKey pair.1)
      (hkey : ∃ pair ∈ pairs, Sidecar.IsSidecarKey pair.1)
      (hends : ReachEnds s config o.place m (ComparisonEnds (Sidecar.annotated pairs)) ended) :
      ResourcesEnds s config o m ended

def ResourcesReport.flags (r : ResourcesReport) : List Bool := [r.isMatch]

section Traversals

variable {α β ε : Type}

theorem bind_eq_ok_iff {x : Except ε α} {f : α → Except ε β} {b : β} :
    x >>= f = .ok b ↔ ∃ a, x = .ok a ∧ f a = .ok b := by
  cases x <;> simp [bind, Except.bind]

theorem bind_eq_error_iff {x : Except ε α} {f : α → Except ε β} {e : ε} :
    x >>= f = .error e ↔ x = .error e ∨ ∃ a, x = .ok a ∧ f a = .error e := by
  cases x <;> simp [bind, Except.bind]

theorem mapM_eq_ok_iff {f : α → Except ε β} {xs : List α} {ys : List β} :
    xs.mapM f = .ok ys ↔ List.Forall₂ (fun x y => f x = .ok y) xs ys := by
  induction xs generalizing ys with
  | nil =>
      rw [List.mapM_nil, List.forall₂_nil_left_iff]
      exact (Except.ok.injEq _ _).to_iff.trans eq_comm
  | cons x xs ih =>
      rw [List.mapM_cons, List.forall₂_cons_left_iff, bind_eq_ok_iff]
      refine exists_congr fun y => ?_
      rw [bind_eq_ok_iff]
      simp only [ih, ← exists_and_left]
      refine exists_congr fun rest => and_congr_right fun _ => and_congr_right fun _ => ?_
      exact (Except.ok.injEq _ _).to_iff.trans eq_comm

theorem exists_of_mapM_eq_error {f : α → Except ε β} {xs : List α} {e : ε}
    (h : xs.mapM f = .error e) : ∃ x ∈ xs, f x = .error e := by
  induction xs with
  | nil => cases h
  | cons x xs ih =>
      rw [List.exists_mem_cons_iff]
      rw [List.mapM_cons, bind_eq_error_iff] at h
      refine h.imp_right fun ⟨y, _, hrest⟩ => ?_
      obtain hxs | ⟨ys, _, hpure⟩ := bind_eq_error_iff.mp hrest
      · exact ih hxs
      · cases hpure

end Traversals

theorem annotationOf_of_split {word : String} {key value : List Char}
    (hword : word.toList = key ++ '=' :: value) (hkey : '=' ∉ key) :
    annotationOf word =
      if trim (String.ofList key) = "" ∨ trim (String.ofList value) = "" then
        .error (.precondition s!"invalid annotation '{word}', expected KEY=VALUE")
      else .ok (trim (String.ofList key), trim (String.ofList value)) := by
  have hother : ∀ c ∈ key, decide (c ≠ '=') = true := by
    intro c hc
    rw [decide_eq_true_eq]
    rintro rfl
    exact hkey hc
  have hspan : word.toList.span (· ≠ '=') = (key, '=' :: value) := by
    rw [hword, List.span_eq_takeWhile_dropWhile, List.takeWhile_append_of_pos hother,
      List.dropWhile_append_of_pos hother]
    simp
  rw [annotationOf, hspan]
  simp only [List.isEmpty_cons, Bool.false_or, Bool.or_eq_true, String.isEmpty_iff, List.drop_one,
    List.tail_cons]

theorem annotationOf_of_not_mem {word : String} (h : '=' ∉ word.toList) :
    ∃ f, annotationOf word = .error f := by
  have hspan : word.toList.span (· ≠ '=') = (word.toList, []) := by
    rw [List.span_eq_takeWhile_dropWhile, Prod.mk.injEq, List.takeWhile_eq_self_iff,
      List.dropWhile_eq_nil_iff]
    have hother : ∀ c ∈ word.toList, decide (c ≠ '=') = true := by
      intro c hc
      rw [decide_eq_true_eq]
      rintro rfl
      exact h hc
    exact ⟨hother, hother⟩
  rw [annotationOf, hspan]
  exact ⟨_, rfl⟩

theorem annotationOf_eq_ok_iff (word : String) (pair : String × String) :
    annotationOf word = .ok pair ↔ SpellsAnnotation word pair := by
  constructor
  · intro h
    by_cases hmem : '=' ∈ word.toList
    · obtain ⟨key, value, hword, hkey⟩ := List.eq_append_cons_of_mem hmem
      rw [annotationOf_of_split hword hkey] at h
      split at h
      · cases h
      · next hparts =>
          cases h
          rw [not_or] at hparts
          refine ⟨String.ofList key, String.ofList value, ?_, ?_, rfl, hparts⟩
          · rw [← String.toList_inj, hword]
            simp
          · rwa [String.toList_ofList]
    · obtain ⟨f, hf⟩ := annotationOf_of_not_mem hmem
      cases hf.symm.trans h
  · rintro ⟨key, value, rfl, hkey, rfl, hparts⟩
    have hword : (key ++ "=" ++ value).toList = key.toList ++ '=' :: value.toList := by
      simp
    rw [annotationOf_of_split hword hkey, String.ofList_toList, String.ofList_toList,
      if_neg (not_or.mpr hparts)]

theorem annotationOf_error {word : String} {f : Failure} (h : annotationOf word = .error f) :
    f.exitCode = 4 := by
  unfold annotationOf at h
  dsimp only at h
  split at h
  · cases h
    rfl
  · cases h

theorem annotations_eq_ok_iff (words : List String) (pairs : List (String × String)) :
    words.mapM annotationOf = .ok pairs ↔ List.Forall₂ SpellsAnnotation words pairs := by
  rw [mapM_eq_ok_iff]
  simp only [annotationOf_eq_ok_iff]

theorem annotations_error {words : List String} {f : Failure}
    (h : words.mapM annotationOf = .error f) : f.exitCode = 4 := by
  obtain ⟨word, -, hword⟩ := exists_of_mapM_eq_error h
  exact annotationOf_error hword

theorem kind_of_ofAnnotations_error {pairs : List (String × String)} {fault : Fault}
    (h : Sidecar.Expected.ofAnnotations pairs = .error fault) : fault.kind = .validation := by
  by_cases hknown : ∀ pair ∈ pairs, ¬ Sidecar.IsUnknownKey pair.1
  · obtain ⟨e, -, he⟩ := Sidecar.Expected.ofAnnotations_of_known pairs hknown
    rw [h] at he
    split at he <;> cases he
    rfl
  · obtain ⟨before, key, value, after, rfl, hbefore, hkey⟩ :=
      Sidecar.Expected.exists_first_isUnknownKey (by simpa using hknown)
    rw [Sidecar.Expected.ofAnnotations_of_isUnknownKey before key value after hbefore hkey] at h
    cases h
    rfl

def compareWith (place : Place) (expected : Sidecar.Expected) (target : Target)
    (snapshot : Snapshot) : Attempt ResourcesReport := do
  Work.note .info "checking auth sidecar resources"
    [("target_name", .text target.name), ("fields", .count expected.size)]
  let mismatches ← Sidecar.check snapshot expected
  return { target := place.pod, checked := expected.size, mismatches }

theorem value_compareWith (place : Place) (expected : Sidecar.Expected) (target : Target)
    (snapshot : Snapshot) (m : Moment) :
    ((compareWith place expected target snapshot).run m).value =
      some ((Sidecar.mismatches snapshot expected).map fun found =>
        { target := place.pod, checked := expected.size, mismatches := found }) := by
  rw [compareWith, Attempt.run_lift_bind, Work.bind_of_value _ _ m rfl, Trace.value_followedBy,
    Attempt.run_bind_pure, Sidecar.run_check]
  rfl

def compare (place : Place) (expected : Sidecar.Expected) (target : Target) :
    Attempt ResourcesReport :=
  target.presentSnapshot >>= compareWith place expected target

theorem examineSidecar_eq (s : Surroundings) (config : Configuration) (place : Place)
    (pairs : List (String × String)) :
    examineSidecar s config place pairs =
      Attempt.ofExcept (Sidecar.Expected.ofAnnotations pairs) >>= fun expected =>
      s.reach config place >>= compare place expected := rfl

theorem comparisonEnds_compare {asked : ResourceField → Option String}
    {expected : Sidecar.Expected} (hasked : ∀ f, expected.get? f = asked f) (place : Place)
    (target : Target) (m : Moment) :
    ComparisonEnds asked target m
      (endedOf ResourcesReport.flags ((compare place expected target).run m).value) := by
  cases hsnapshot : target.onSnapshot m with
  | never =>
      have hpresent := congrArg Trace.value (target.run_presentSnapshot_of_never m hsnapshot)
      rw [compare, Attempt.run_bind_of_none _ _ _ hpresent]
      exact .unanswered hsnapshot
  | after delay answer =>
      have hpresent := congrArg Trace.value (target.run_presentSnapshot m hsnapshot)
      cases answer with
      | error fault =>
          rw [compare, Attempt.run_bind_of_error _ _ _ hpresent]
          exact .failed hsnapshot
      | ok found =>
          cases found with
          | none =>
              rw [compare, Attempt.run_bind_of_error _ _ _ hpresent]
              exact .missing hsnapshot
          | some snapshot =>
              rw [compare, Attempt.run_bind_of_ok _ _ _ hpresent, Trace.value_followedBy,
                value_compareWith, Sidecar.mismatches]
              cases hsidecar : snapshot.container? Sidecar.containerName with
              | none => exact .withoutSidecar hsnapshot hsidecar
              | some sidecar =>
                  refine .compared hsnapshot hsidecar ?_
                  have haccount :=
                    (Sidecar.isAccount_filterMap sidecar.resources expected).nil_iff
                  simp only [hasked] at haccount
                  exact List.isEmpty_iff.trans haccount

theorem resourcesEnds_examineSidecar {s : Surroundings} {config : Configuration}
    {o : ResourcesOptions} {pairs : List (String × String)}
    (h : o.annotations.mapM annotationOf = .ok pairs) (m : Moment) :
    ResourcesEnds s config o m
      (endedOf ResourcesReport.flags ((examineSidecar s config o.place pairs).run m).value) := by
  rw [annotations_eq_ok_iff] at h
  rw [examineSidecar_eq]
  refine ends_ofExcept_bind (fun fault hexpected => ?_) fun expected hexpected => ?_
  · rw [kind_of_ofAnnotations_error hexpected]
    exact .unusable h ((Sidecar.Expected.ofAnnotations_error_iff pairs).mp ⟨fault, hexpected⟩)
  · obtain ⟨hknown, hkey, hget⟩ :=
      (Sidecar.Expected.ofAnnotations_eq_ok_iff pairs expected).mp hexpected
    exact .reaching h hknown hkey (reachEnds_bind s config o.place m
      (comparisonEnds_compare hget o.place))

theorem of_value_examineSidecar {s : Surroundings} {config : Configuration} {place : Place}
    {pairs : List (String × String)} {m : Moment} {r : ResourcesReport}
    (h : ((examineSidecar s config place pairs).run m).value = some (.ok r)) :
    r.target = place.pod := by
  rw [examineSidecar_eq] at h
  obtain ⟨expected, -, h⟩ := Attempt.exists_of_value_bind h
  obtain ⟨target, -, h⟩ := Attempt.exists_of_value_bind h
  obtain ⟨snapshot, -, h⟩ := Attempt.exists_of_value_bind h
  obtain ⟨_, -, h⟩ := Attempt.exists_of_value_bind h
  obtain ⟨mismatches, -, h⟩ := Attempt.exists_of_value_bind h
  obtain rfl := Except.ok.inj (Option.some.inj h)
  rfl

end NotebookCheck.CommandLine

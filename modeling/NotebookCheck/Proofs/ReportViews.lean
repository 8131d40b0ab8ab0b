import Mathlib.Data.Finset.Card
import NotebookCheck.Packages.Encoding
import NotebookCheck.Proofs.Ledger
import NotebookCheck.Snippet.Report

namespace NotebookCheck

namespace Ledger

variable {α : Type}

theorem namesWhere_sublist (p : α → Bool) (ledger : Ledger α) :
    (ledger.namesWhere p).Sublist ledger.names :=
  List.filter_sublist.map _

theorem namesWhere_append_perm (p : α → Bool) (ledger : Ledger α) :
    (ledger.namesWhere (fun x => !p x) ++ ledger.namesWhere p).Perm ledger.names := by
  have hperm := (List.filter_append_perm (fun e => !p e.2) ledger.entries).map Prod.fst
  simpa [namesWhere, names] using hperm

theorem size_ofEntries (entries : List (String × α)) :
    (ofEntries entries).size = (entries.map (·.1)).toFinset.card := by
  have hset : (entries.map (·.1)).eraseDups.toFinset = (entries.map (·.1)).toFinset := by
    ext name
    rw [List.mem_toFinset, List.mem_toFinset, List.mem_eraseDups]
  have hlength : (ofEntries entries).size = (ofEntries entries).names.length := by
    rw [size, names, List.length_map]
  rw [hlength, ← hset, List.toFinset_card_of_nodup (nodup_eraseDups _), names_ofEntries]

theorem isEmpty_ofEntries_iff (entries : List (String × α)) :
    (ofEntries entries).isEmpty = true ↔ entries = [] := by
  have hnames : (ofEntries entries).isEmpty = true ↔ (ofEntries entries).names = [] := by
    rw [isEmpty, List.isEmpty_iff, names, List.map_eq_nil_iff]
  rw [hnames, names_ofEntries]
  cases entries with
  | nil => exact ⟨fun _ => rfl, fun _ => rfl⟩
  | cons entry rest => simp [List.eraseDups_cons]

theorem all_values_iff (p : α → Bool) (ledger : Ledger α) :
    ledger.values.all p = true ↔ ledger.namesWhere (fun x => !p x) = [] := by
  simp [values, namesWhere, List.filter_eq_nil_iff]

/-- What is shown of a ledger to which values have been written one after the other, each of which
is good or not. -/
structure Recounts (good : α → Bool) (written : List (String × α)) (ledger : Ledger α)
    (failed successful : List String) : Prop where
  names : ledger.names = (written.map (·.1)).eraseDups
  nodup : ledger.names.Nodup
  last : ∀ name value, ledger.get? name = some value ↔
    ∃ before after, written = before ++ (name, value) :: after ∧ name ∉ after.map (·.1)
  mem_failed : ∀ name, name ∈ failed ↔
    ∃ value, ledger.get? name = some value ∧ good value = false
  mem_successful : ∀ name, name ∈ successful ↔
    ∃ value, ledger.get? name = some value ∧ good value = true
  failed_sublist : failed.Sublist ledger.names
  successful_sublist : successful.Sublist ledger.names
  once : (failed ++ successful).Perm ledger.names
  size : ledger.size = (written.map (·.1)).toFinset.card
  isEmpty : ledger.isEmpty = true ↔ written = []

theorem recounts_ofEntries (good : α → Bool) (written : List (String × α)) :
    Recounts good written (ofEntries written)
      ((ofEntries written).namesWhere fun x => !good x) ((ofEntries written).namesWhere good) where
  names := names_ofEntries written
  nodup := nodup_names_ofEntries written
  last := get?_ofEntries_eq_some_iff written
  mem_failed name := by
    simp only [mem_namesWhere_iff (nodup_names_ofEntries written), Bool.not_eq_true']
  mem_successful := mem_namesWhere_iff (nodup_names_ofEntries written) good
  failed_sublist := namesWhere_sublist _ _
  successful_sublist := namesWhere_sublist _ _
  once := namesWhere_append_perm good _
  size := size_ofEntries written
  isEmpty := isEmpty_ofEntries_iff written

end Ledger

def PackageReport.ofResults (results : List PackageResult) : PackageReport :=
  results.foldl PackageReport.add .empty

theorem PackageReport.ofResults_eq (results : List PackageResult) :
    ofResults results = Ledger.ofEntries (results.map fun result => (result.package, result)) := by
  rw [Ledger.ofEntries, List.foldl_map]
  rfl

theorem SnippetReport.criticalFailures_eq (outcomes : List (String × SnippetOutcome)) :
    criticalFailures (Ledger.ofEntries outcomes) =
      ["os", "sys", "json"].filter (· ∈ failed (Ledger.ofEntries outcomes)) := by
  refine List.filter_congr fun name _ => ?_
  rw [Bool.eq_iff_iff, decide_eq_true_iff, failed,
    Ledger.mem_namesWhere_iff (Ledger.nodup_names_ofEntries outcomes), Option.any_eq_true]

/-- Reports on packages and on snippet checks recount whatever was inserted into them, in any order
and with any repetitions; and what else they show follows from the names that failed and those that
did not. -/
theorem reports_recount_insertions (results : List PackageResult)
    (outcomes : List (String × SnippetOutcome)) :
    let report := PackageReport.ofResults results
    let suite : SnippetReport := Ledger.ofEntries outcomes
    Ledger.Recounts (·.success) (results.map fun result => (result.package, result)) report
        (PackageReport.failed report) (PackageReport.successful report) ∧
      (PackageReport.allSuccessful report = true ↔ PackageReport.failed report = []) ∧
      PackageReport.summaryLine report =
        toString (PackageReport.successful report).length ++ "/" ++ toString report.size ++
          " packages imported successfully" ∧
      Ledger.Recounts (·.success) outcomes suite (SnippetReport.failed suite)
        (SnippetReport.successful suite) ∧
      SnippetReport.criticalFailures suite =
        ["os", "sys", "json"].filter (· ∈ SnippetReport.failed suite) := by
  intro report suite
  refine ⟨?_, Ledger.all_values_iff _ report, rfl, Ledger.recounts_ofEntries _ outcomes,
    SnippetReport.criticalFailures_eq outcomes⟩
  simp only [report, PackageReport.ofResults_eq]
  exact Ledger.recounts_ofEntries _ _

end NotebookCheck

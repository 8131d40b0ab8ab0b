import NotebookCheck.CommandLine.Run
import NotebookCheck.Proofs.ReportMarks

namespace NotebookCheck

open Number Text

namespace CommandLine

namespace Marks

def tick (styled : Bool) : Marks where
  good := ("  " ++ Style.green.paint styled "✓").toList
  bad := ("  " ++ Style.red.paint styled "✗").toList

def bareTick (styled : Bool) : Marks where
  good := (Style.green.paint styled "✓").toList
  bad := (Style.red.paint styled "✗").toList

def verdict (styled : Bool) : Marks where
  good := ("  Result: " ++ Style.boldGreen.paint styled "MATCH").toList
  bad := ("  Result: " ++ Style.boldRed.paint styled "MISMATCH").toList

end Marks

/-- What is told of each package, one after the other, in what a verification prints. -/
def VerifyOptions.told (o : VerifyOptions) (styled : Bool) : Format → String → List Bool
  | .text, printed =>
      let heading := VerifyReport.heading styled o.place.pod (o.container.getD o.place.pod)
      (Marks.tick styled).toldInBlock (printed.toList.drop heading.toList.length)
  | .json, printed => (Marks.field 3 "import_successful").told printed.toList

def CheckOptions.told (o : CheckOptions) (styled : Bool) : Format → String → List Bool
  | .text, printed =>
      let heading := CheckReport.heading styled o.suite o.place.pod (o.container.getD o.place.pod)
      (Marks.tick styled).toldInBlock (printed.toList.drop heading.toList.length)
  | .json, printed => (Marks.field 3 "success").told printed.toList

/-- What is told of the target in what a wait prints. -/
def WaitOptions.told (styled : Bool) : Format → String → List Bool
  | .text, printed => ((Marks.bareTick styled).told? printed.toList).toList
  | .json, printed => (Marks.field 1 "ready").told printed.toList

def ResourcesOptions.told (o : ResourcesOptions) (styled : Bool) : Format → String → List Bool
  | .text, printed =>
      let heading := ResourcesReport.heading styled o.place.pod
      ((Marks.verdict styled).told? (printed.toList.drop heading.toList.length)).toList
  | .json, printed => (Marks.field 1 "matches").told printed.toList

theorem newline_not_mem_resume {start cs : List Char} (hstart : '\n' ∉ start) (h : '\n' ∉ cs) :
    '\n' ∉ Style.resume start cs := by
  have hreset : '\n' ∉ Style.reset.toList := by decide
  induction cs using Style.resume.induct with
  | case1 rest ih =>
      rw [Style.resume, List.mem_append, List.mem_append, not_or, not_or]
      exact ⟨⟨hreset, hstart⟩, ih (by simpa using h)⟩
  | case2 c rest hshape ih =>
      rw [List.mem_cons, not_or] at h
      rw [Style.resume]
      · rw [List.mem_cons, not_or]
        exact ⟨h.1, ih h.2⟩
      · exact hshape
  | case3 => exact List.not_mem_nil

theorem newline_not_mem_paint (style : Style) (styled : Bool) {s : String}
    (h : '\n' ∉ s.toList) : '\n' ∉ (style.paint styled s).toList := by
  have hstart : '\n' ∉ style.start.toList := by
    cases style <;> decide
  have hreset : '\n' ∉ Style.reset.toList := by decide
  unfold Style.paint
  split
  · simp only [String.toList_append, String.toList_ofList, List.mem_append, not_or]
    exact ⟨⟨hstart, newline_not_mem_resume hstart h⟩, hreset⟩
  · exact h

section Texts

variable (styled : Bool)

theorem Marks.told?_tick_good (rest : List Char) :
    (tick styled).told? (("  " ++ Style.green.paint styled "✓").toList ++ rest) = some true := by
  rw [told?, if_pos]
  exact List.isPrefixOf_iff_prefix.mpr (List.prefix_append _ _)

theorem Marks.told?_tick_bad (rest : List Char) :
    (tick styled).told? (("  " ++ Style.red.paint styled "✗").toList ++ rest) = some false := by
  cases styled <;> rfl

theorem Marks.told?_tick_output (rest : List Char) :
    (tick styled).told? ("      ".toList ++ rest) = none := by
  cases styled <;> rfl

theorem newline_not_mem_tick :
    '\n' ∉ (Style.green.paint styled "✓").toList ∧ '\n' ∉ (Style.red.paint styled "✗").toList :=
  ⟨newline_not_mem_paint _ _ (by decide), newline_not_mem_paint _ _ (by decide)⟩

theorem newline_not_mem_namedSeconds {name : String} (h : '\n' ∉ name.toList)
    (seconds : Binary64) : '\n' ∉ (namedSeconds name seconds).toList := by
  have hseconds := newline_not_mem_toPlaces 2 seconds
  simp only [namedSeconds, Binary64.hundredths, String.toList_append, List.mem_append, not_or]
  exact ⟨⟨⟨h, by decide⟩, hseconds⟩, by decide⟩

theorem tellsOnce_goodLine {s : String} (h : '\n' ∉ s.toList) :
    (Marks.tick styled).TellsOnce (goodLine styled s) true := by
  refine ⟨[("  " ++ Style.green.paint styled "✓" ++ " " ++ s).toList], ?_, ?_, ?_, ?_⟩
  · rw [goodLine, toList_line]
    simp
  · simp only [List.mem_singleton, forall_eq, String.toList_append, List.mem_append, not_or]
    exact ⟨⟨⟨by decide, (newline_not_mem_tick styled).1⟩, by decide⟩, h⟩
  · simp
  · rw [String.append_assoc, String.toList_append,
      List.filterMap_cons_some (Marks.told?_tick_good styled _)]
    rfl

theorem tellsOnce_badLine {name : String} (h : '\n' ∉ name.toList) (output : List (List Char))
    (houtput : ∀ l ∈ output, '\n' ∉ l) {part : String}
    (hpart : part.toList = (badLine styled name).toList ++
      output.flatMap fun l => "      ".toList ++ l ++ ['\n']) :
    (Marks.tick styled).TellsOnce part false := by
  refine ⟨("  " ++ Style.red.paint styled "✗" ++ " " ++ Style.red.paint styled name).toList ::
    output.map ("      ".toList ++ ·), ?_, ?_, ?_, ?_⟩
  · rw [hpart, badLine, toList_line, List.flatMap_cons, List.flatMap_map]
  · rw [List.forall_mem_cons]
    constructor
    · simp only [String.toList_append, List.mem_append, not_or]
      exact ⟨⟨⟨by decide, (newline_not_mem_tick styled).2⟩, by decide⟩,
        newline_not_mem_paint _ _ h⟩
    · intro l hl
      obtain ⟨piece, hpiece, rfl⟩ := List.mem_map.mp hl
      rw [List.mem_append, not_or]
      exact ⟨by decide, houtput piece hpiece⟩
  · simp
  · have hnone : (output.map ("      ".toList ++ ·)).filterMap (Marks.tick styled).told? = [] := by
      rw [List.filterMap_eq_nil_iff, List.forall_mem_map]
      exact fun l _ => Marks.told?_tick_output styled l
    rw [List.filterMap_cons_some, hnone]
    rw [String.append_assoc, String.toList_append, Marks.told?_tick_bad]

end Texts

theorem isPlainName_keys : IsPlainName "import_successful" ∧ IsPlainName "success" ∧
    IsPlainName "ready" ∧ IsPlainName "matches" := by
  simp [IsPlainName]

theorem PackageResult.tellsInside (r : PackageResult) :
    (Marks.field 3 "import_successful").TellsInside (r.toJson.indented 2).toList [r.success] := by
  have hkey := isPlainName_keys.1
  have hother (name : String) {value : Json} (hname : name ≠ "import_successful")
      (hvalue : IsFlat value) :
      (Marks.field 3 "import_successful").TellsLine (fieldLine 3 (name, value)) [] :=
    tellsLine_flat hkey (.inr hname) hvalue
  have htold : (Marks.field 3 "import_successful").TellsInside (r.toJson.indented 2).toList
      (List.flatten _) :=
    tellsInside_object hkey <|
      .cons (hother "package_name" (by decide) (isFlat_string r.package)) <|
      .cons (tellsLine_own hkey r.success) <|
      .cons (hother "error_message" (by decide) (isFlat_ofText? r.errorMessage)) <|
      .cons (hother "command_executed" (by decide) (isFlat_string r.command)) <|
      .cons (hother "execution_time_seconds" (by decide) (isFlat_real r.seconds)) <|
      .cons (hother "pod_logs" (by decide) (isFlat_ofText? r.logs)) <|
      .cons (hother "stdout" (by decide) (isFlat_string r.stdout)) <|
      .cons (hother "stderr" (by decide) (isFlat_string r.stderr)) .nil
  exact htold

theorem SnippetOutcome.tellsInside (o : SnippetOutcome) :
    (Marks.field 3 "success").TellsInside (o.toJson.indented 2).toList [o.success] := by
  have hkey := isPlainName_keys.2.1
  have hother (name : String) {value : Json} (hname : name ≠ "success") (hvalue : IsFlat value) :
      (Marks.field 3 "success").TellsLine (fieldLine 3 (name, value)) [] :=
    tellsLine_flat hkey (.inr hname) hvalue
  have htold : (Marks.field 3 "success").TellsInside (o.toJson.indented 2).toList
      (List.flatten _) :=
    tellsInside_object hkey <|
      .cons (tellsLine_own hkey o.success) <|
      .cons (hother "output" (by decide) (isFlat_string o.output)) <|
      .cons (hother "elapsed_seconds" (by decide) (isFlat_real o.seconds)) .nil
  exact htold

section Results

variable {α : Type} {key : String} {toJson : α → Json} {good : α → Bool}

theorem tellsLine_entries (hkey : IsPlainName key) (name : String)
    (h : ∀ a, (Marks.field 3 key).TellsInside ((toJson a).indented 2).toList [good a])
    (entries : List (String × α)) :
    (Marks.field 3 key).TellsLine
      (fieldLine 1 (name, .object (entries.map fun e => (e.1, toJson e.2))))
      (entries.map fun e => good e.2) := by
  have hflags : (entries.map fun e => good e.2) = (entries.map fun e => [good e.2]).flatten := by
    rw [← List.flatMap_def, List.map_eq_flatMap]
  rw [hflags]
  refine tellsLine_field hkey (.inl (by decide)) (tellsInside_object hkey ?_)
  rw [List.forall₂_map_left_iff, List.forall₂_map_right_iff, List.forall₂_same]
  exact fun e _ => tellsLine_field hkey (.inl (by decide)) (h e.2)

end Results

theorem VerifyReport.told_json (r : VerifyReport) :
    (Marks.field 3 "import_successful").told (line (r.report.json.indented 0)).toList =
      r.results.values.map (·.success) := by
  have hkey := isPlainName_keys.1
  have hflat (name text : String) :
      (Marks.field 3 "import_successful").TellsLine (fieldLine 1 (name, .string text)) [] :=
    tellsLine_flat hkey (.inl (by decide)) (isFlat_string text)
  have htold := told_document hkey
    (.cons (hflat "target" r.target) <| .cons (hflat "container" r.container) <|
      .cons (hflat "summary" r.summary) <|
      .cons (tellsLine_entries hkey "results" PackageResult.tellsInside r.results.entries) .nil)
  refine htold.trans ?_
  simp [Ledger.values, Function.comp_def]

theorem CheckReport.told_json (r : CheckReport) :
    (Marks.field 3 "success").told (line (r.report.json.indented 0)).toList =
      r.results.values.map (·.success) := by
  have hkey := isPlainName_keys.2.1
  have hflat (name : String) {value : Json} (hvalue : IsFlat value) :
      (Marks.field 3 "success").TellsLine (fieldLine 1 (name, value)) [] :=
    tellsLine_flat hkey (.inl (by decide)) hvalue
  have hfailures : (Marks.field 3 "success").TellsLine
      (fieldLine 1 ("critical_failures", .ofTexts (SnippetReport.criticalFailures r.results)))
      [] := by
    have hnone : ((SnippetReport.criticalFailures r.results).map
        fun _ => ([] : List Bool)).flatten = [] := by
      simp
    rw [← hnone]
    refine tellsLine_field hkey (.inl (by decide)) (tellsInside_array hkey ?_)
    rw [List.forall₂_map_left_iff, List.forall₂_map_right_iff, List.forall₂_same]
    intro name _
    have hwritten : ((Json.string name).indented 2).toList =
        '"' :: (name.toList.flatMap Json.writtenChar ++ ['"']) := by
      simp [Json.indented, Json.writtenText]
    have hinside : (Marks.field 3 "success").TellsInside ((Json.string name).indented 2).toList [] :=
      Marks.tellsInside_of_not_mem (isFlat_string name 2)
    rw [hwritten] at hinside ⊢
    exact tellsLine_item hkey (by decide) (by decide) hinside
  have htold := told_document hkey
    (.cons (hflat "target" (isFlat_string r.target)) <|
      .cons (hflat "container" (isFlat_string r.container)) <|
      .cons (hflat "suite" (isFlat_string r.suite)) <|
      .cons (tellsLine_entries hkey "results" SnippetOutcome.tellsInside r.results.entries) <|
      .cons hfailures <| .cons (hflat "elapsed_seconds" (isFlat_real r.seconds)) .nil)
  refine htold.trans ?_
  simp [Ledger.values, Function.comp_def]

section Flat

variable {key : String} {α : Type}

/-- A list of objects without any lists or objects in them, below the depth of a field. -/
theorem tellsLine_flatObjects (hkey : IsPlainName key) (name : String) (hname : name ≠ key)
    (items : List α) (fields : α → List (String × Json))
    (hflat : ∀ a, ∀ f ∈ fields a, IsFlat f.2) (hne : ∀ a, fields a ≠ []) :
    (Marks.field 1 key).TellsLine
      (fieldLine 1 (name, .array (items.map fun a => .object (fields a)))) [] := by
  have hnone : (items.map fun _ => ([] : List Bool)).flatten = [] := by
    simp
  rw [← hnone]
  refine tellsLine_field hkey (.inr hname) (tellsInside_array hkey ?_)
  rw [List.forall₂_map_left_iff, List.forall₂_map_right_iff, List.forall₂_same]
  intro a _
  have hinside : (Marks.field 1 key).TellsInside ((Json.object (fields a)).indented 2).toList
      ((fields a).map fun _ => ([] : List Bool)).flatten := by
    refine tellsInside_object hkey ?_
    rw [List.forall₂_map_right_iff, List.forall₂_same]
    intro f hf
    exact tellsLine_field hkey (.inl (by decide)) (Marks.tellsInside_of_not_mem (hflat a f hf 3))
  have hnone' : ((fields a).map fun _ => ([] : List Bool)).flatten = [] := by
    simp
  rw [hnone'] at hinside
  obtain ⟨f, rest, hfields⟩ := List.exists_cons_of_ne_nil (hne a)
  have hopen : ∃ cs, ((Json.object (fields a)).indented 2).toList = '\x7b' :: cs := by
    rw [hfields, Json.indented]
    exact ⟨_, by simp [String.toList_append]; rfl⟩
  obtain ⟨cs, hcs⟩ := hopen
  rw [hcs] at hinside ⊢
  exact tellsLine_item hkey (by decide) (by decide) hinside

end Flat

theorem WaitReport.told_json (r : WaitReport) :
    (Marks.field 1 "ready").told (line (r.report.json.indented 0)).toList = [r.ready] := by
  have hkey := isPlainName_keys.2.2.1
  have hother (name : String) {value : Json} (hname : name ≠ "ready") (hvalue : IsFlat value) :
      (Marks.field 1 "ready").TellsLine (fieldLine 1 (name, value)) [] :=
    tellsLine_flat hkey (.inr hname) hvalue
  have hcontainers := tellsLine_flatObjects hkey "containers" (by decide) r.containers
    (fun c => [("name", .string c.1), ("ready", .bool c.2)])
    (by simp [isFlat_string, isFlat_bool]) (by simp)
  have hfields (more : List (String × Json)) (hmore : ∀ f ∈ more, f.1 ≠ "ready" ∧ IsFlat f.2) :
      (Marks.field 1 "ready").told (line ((Json.object ([("target", .string r.target),
        ("ready", .bool r.ready), ("phase", .ofText? r.phase),
        ("containers", .array (r.containers.map fun c =>
          .object [("name", .string c.1), ("ready", .bool c.2)]))] ++ more)).indented 0)).toList =
      [r.ready] := by
    have hlast : List.Forall₂ (fun f flags => (Marks.field 1 "ready").TellsLine (fieldLine 1 f)
        flags) more (more.map fun _ => []) := by
      rw [List.forall₂_map_right_iff, List.forall₂_same]
      exact fun f hf => hother f.1 (hmore f hf).1 (hmore f hf).2
    refine (told_document hkey
      (.cons (hother "target" (by decide) (isFlat_string r.target)) <|
        .cons (tellsLine_own hkey r.ready) <|
        .cons (hother "phase" (by decide) (isFlat_ofText? r.phase)) <|
        .cons hcontainers hlast)).trans ?_
    simp
  rw [report]
  cases r.failure with
  | none => exact hfields [] (by simp)
  | some failure => exact hfields [("failure", .string failure)] (by simp [isFlat_string])

theorem ResourcesReport.told_json (r : ResourcesReport) :
    (Marks.field 1 "matches").told (line (r.report.json.indented 0)).toList = [r.isMatch] := by
  have hkey := isPlainName_keys.2.2.2
  have hother (name : String) {value : Json} (hname : name ≠ "matches") (hvalue : IsFlat value) :
      (Marks.field 1 "matches").TellsLine (fieldLine 1 (name, value)) [] :=
    tellsLine_flat hkey (.inr hname) hvalue
  have hmismatches := tellsLine_flatObjects hkey "mismatches" (by decide) r.mismatches
    (fun m => [("field", .string m.field.label), ("expected", .string m.expected),
      ("actual", .ofText? m.actual)]) (by simp [isFlat_string, isFlat_ofText?]) (by simp)
  refine (told_document hkey
    (.cons (hother "target" (by decide) (isFlat_string r.target)) <|
      .cons (hother "container" (by decide) (isFlat_string _)) <|
      .cons (hother "checked" (by decide) (isFlat_int r.checked)) <|
      .cons (tellsLine_own hkey r.isMatch) <| .cons hmismatches .nil)).trans ?_
  simp

section Rendered

variable (s : Surroundings) (format : Format)

theorem drop_heading (heading : String) (rest : List Char) :
    (heading.toList ++ rest).drop heading.toList.length = rest :=
  List.drop_left

theorem VerifyReport.told_text (styled : Bool) (r : VerifyReport)
    (hnames : ∀ e ∈ r.results.entries, '\n' ∉ e.1.toList) :
    (Marks.tick styled).toldInBlock ((r.report.text styled).toList.drop
      (heading styled r.target r.container).toList.length) = r.results.values.map (·.success) := by
  have hparts : ∀ e ∈ r.results.entries,
      (Marks.tick styled).TellsOnce (packageLine styled e.1 e.2) e.2.success := by
    intro e he
    have hname := hnames e he
    rw [packageLine]
    cases e.2.success with
    | true => exact tellsOnce_goodLine styled (newline_not_mem_namedSeconds hname _)
    | false => exact tellsOnce_badLine styled hname [] nofun (by simp)
  rw [report]
  simp only [String.toList_append, List.append_assoc, drop_heading, toList_line "",
    String.toList_empty, List.nil_append, List.cons_append]
  rw [Marks.toldInBlock_join _ _ _ hparts, Ledger.values, List.map_map]
  rfl

theorem newline_not_mem_of_mem_lines {text line : String} (h : line ∈ lines text) :
    '\n' ∉ line.toList := by
  have hreturn : ∀ {l : List Char}, '\n' ∉ l → '\n' ∉ dropReturn l := by
    intro l hl
    unfold dropReturn
    split
    · exact fun hmem => hl ((List.dropLast_sublist l).mem hmem)
    · exact hl
  have hpieces : ∀ pieces : List (List Char), (∀ piece ∈ pieces, '\n' ∉ piece) →
      ∀ l ∈ linesOfPieces pieces, '\n' ∉ l := by
    intro pieces hbreak
    induction pieces with
    | nil => simp [linesOfPieces]
    | cons piece pieces ih =>
        rw [List.forall_mem_cons] at hbreak
        cases pieces with
        | nil =>
            rw [linesOfPieces]
            split
            · simp
            · simpa using hbreak.1
        | cons next pieces =>
            rw [linesOfPieces]
            · rw [List.forall_mem_cons]
              exact ⟨hreturn hbreak.1, ih hbreak.2⟩
            · simp
  obtain ⟨l, hl, rfl⟩ := List.mem_map.mp h
  rw [String.toList_ofList]
  exact hpieces _ (fun piece => not_mem_of_mem_splitAtChar) l hl

theorem CheckReport.told_text (styled : Bool) (r : CheckReport)
    (hnames : ∀ e ∈ r.results.entries, '\n' ∉ e.1.toList) :
    (Marks.tick styled).toldInBlock ((r.report.text styled).toList.drop
      (heading styled r.suite r.target r.container).toList.length) =
        r.results.values.map (·.success) := by
  have hparts : ∀ e ∈ r.results.entries,
      (Marks.tick styled).TellsOnce (checkLines styled e.1 e.2) e.2.success := by
    intro e he
    have hname := hnames e he
    rw [checkLines]
    cases e.2.success with
    | true => exact tellsOnce_goodLine styled (newline_not_mem_namedSeconds hname _)
    | false =>
        refine tellsOnce_badLine styled hname ((lines e.2.output).map String.toList) ?_ ?_
        · rw [List.forall_mem_map]
          exact fun line hline => newline_not_mem_of_mem_lines hline
        · rw [if_neg Bool.false_ne_true, String.toList_append, join_empty_eq,
            String.toList_join, List.flatMap_map, List.flatMap_map]
          simp only [toList_line, String.toList_append]
  rw [report]
  simp only [String.toList_append, List.append_assoc, drop_heading, toList_line "",
    String.toList_empty, List.nil_append, List.cons_append]
  rw [Marks.toldInBlock_join _ _ _ hparts, Ledger.values, List.map_map]
  rfl

theorem WaitReport.told_text (styled : Bool) (r : WaitReport) :
    (Marks.bareTick styled).told? (r.report.text styled).toList = some r.ready := by
  rw [report]
  dsimp only
  cases hready : r.ready with
  | true =>
      simp only [if_true, readyText, line, String.append_assoc, String.toList_append]
      rw [Marks.told?, if_pos]
      exact List.isPrefixOf_iff_prefix.mpr (List.prefix_append _ _)
  | false =>
      simp only [Bool.false_eq_true, if_false, failureText, line, String.append_assoc,
        String.toList_append]
      cases styled <;> rfl

theorem ResourcesReport.told_text (styled : Bool) (r : ResourcesReport) :
    (Marks.verdict styled).told? ((r.report.text styled).toList.drop
      (heading styled r.target).toList.length) = some r.isMatch := by
  rw [report]
  simp only [String.toList_append, drop_heading]
  cases hmatch : r.isMatch with
  | true =>
      rw [if_pos rfl, line, String.append_assoc, String.toList_append, Marks.told?, if_pos]
      exact List.isPrefixOf_iff_prefix.mpr (List.prefix_append _ _)
  | false =>
      rw [if_neg Bool.false_ne_true, line, String.append_assoc, String.toList_append]
      cases styled <;> rfl

theorem VerifyReport.told_rendered (o : VerifyOptions) (r : VerifyReport)
    (htarget : r.target = o.place.pod) (hcontainer : r.container = o.container.getD o.place.pod)
    (hnames : ∀ e ∈ r.results.entries, '\n' ∉ e.1.toList) :
    o.told s.styled format (s.rendered format r.report) = r.results.values.map (·.success) := by
  cases format with
  | text =>
      have htold := r.told_text s.styled hnames
      rwa [htarget, hcontainer] at htold
  | json => exact r.told_json

theorem CheckReport.told_rendered (o : CheckOptions) (r : CheckReport)
    (htarget : r.target = o.place.pod) (hcontainer : r.container = o.container.getD o.place.pod)
    (hsuite : r.suite = o.suite) (hnames : ∀ e ∈ r.results.entries, '\n' ∉ e.1.toList) :
    o.told s.styled format (s.rendered format r.report) = r.results.values.map (·.success) := by
  cases format with
  | text =>
      have htold := r.told_text s.styled hnames
      rwa [htarget, hcontainer, hsuite] at htold
  | json => exact r.told_json

theorem WaitReport.told_rendered (r : WaitReport) :
    WaitOptions.told s.styled format (s.rendered format r.report) = [r.ready] := by
  cases format with
  | text => exact congrArg Option.toList (r.told_text s.styled)
  | json => exact r.told_json

theorem ResourcesReport.told_rendered (o : ResourcesOptions) (r : ResourcesReport)
    (htarget : r.target = o.place.pod) :
    o.told s.styled format (s.rendered format r.report) = [r.isMatch] := by
  cases format with
  | text =>
      have htold := r.told_text s.styled
      rw [htarget] at htold
      exact congrArg Option.toList htold
  | json => exact r.told_json

end Rendered

end CommandLine

end NotebookCheck

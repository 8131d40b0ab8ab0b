import Mathlib.Data.List.Basic
import NotebookCheck.Packages.Encoding
import NotebookCheck.Proofs.Ledger

namespace NotebookCheck

open Number Text

namespace Text

theorem splitAtChar_eq_splitOn (sep : Char) (cs : List Char) :
    splitAtChar sep cs = cs.splitOn sep := by
  induction cs with
  | nil => rfl
  | cons c rest ih =>
      rw [List.splitOn_cons_eq_if_modifyHead, ← ih, splitAtChar]
      by_cases hc : c = sep
      · rw [if_pos hc, if_pos (beq_iff_eq.mpr hc)]
      · rw [if_neg hc, if_neg (fun h => hc (beq_iff_eq.mp h))]
        have hne : splitAtChar sep rest ≠ [] := ih ▸ List.splitOn_ne_nil sep rest
        obtain ⟨piece, pieces, hpieces⟩ := List.exists_cons_of_ne_nil hne
        rw [hpieces]
        rfl

theorem not_mem_of_mem_splitAtChar {sep : Char} {cs piece : List Char}
    (h : piece ∈ splitAtChar sep cs) : sep ∉ piece := by
  induction cs generalizing piece with
  | nil =>
      rw [splitAtChar, List.mem_singleton] at h
      exact h ▸ List.not_mem_nil
  | cons c rest ih =>
      rw [splitAtChar] at h
      by_cases hc : c = sep
      · rw [if_pos hc, List.mem_cons] at h
        rcases h with rfl | h
        · exact List.not_mem_nil
        · exact ih h
      · rw [if_neg hc] at h
        cases hrest : splitAtChar sep rest with
        | nil =>
            rw [hrest, List.mem_singleton] at h
            simpa [h] using Ne.symm hc
        | cons first others =>
            rw [hrest] at h ih
            rcases List.mem_cons.mp h with rfl | h
            · rw [List.mem_cons, not_or]
              exact ⟨Ne.symm hc, ih List.mem_cons_self⟩
            · exact ih (List.mem_cons_of_mem _ h)

theorem splitAtChar_flatMap {sep : Char} {lines : List (List Char)} (h : ∀ l ∈ lines, sep ∉ l)
    (rest : List Char) :
    splitAtChar sep (lines.flatMap (· ++ [sep]) ++ rest) = lines ++ splitAtChar sep rest := by
  simp only [splitAtChar_eq_splitOn]
  induction lines with
  | nil => rfl
  | cons l lines ih =>
      obtain ⟨hl, hlines⟩ := List.forall_mem_cons.mp h
      have hcons : (l :: lines).flatMap (· ++ [sep]) ++ rest =
          l ++ sep :: (lines.flatMap (· ++ [sep]) ++ rest) := by simp
      rw [hcons, List.splitOn_append_cons_self_of_not_mem hl, ih hlines]
      rfl

theorem join_empty_eq (parts : List String) : join "" parts = String.join parts := by
  induction parts with
  | nil => rfl
  | cons part rest ih =>
      rw [String.join_cons, ← ih, join, join]
      by_cases hrest : rest = []
      · rw [hrest, String.intercalate_singleton, String.intercalate_nil, String.append_empty]
      · rw [String.intercalate_cons_of_ne_nil hrest, String.append_empty]

end Text

namespace Number

theorem isDigit_of_mem_padded {width n : Nat} {c : Char} (h : c ∈ padded width n) :
    c.isDigit = true := by
  rcases List.mem_append.mp h with hzero | hdigit
  · rw [(List.mem_replicate.mp hzero).2]
    rfl
  · exact Nat.isDigit_of_mem_toDigits (by decide) (by decide) hdigit

theorem newline_not_mem_toPlaces (places : Nat) (x : Binary64) :
    '\n' ∉ (x.toPlaces places).toList := by
  have hdigit : ('\n').isDigit ≠ true := by decide
  simp only [Binary64.toPlaces, String.toList_ofList, List.mem_append, List.mem_cons, not_or]
  refine ⟨⟨?_, fun h => hdigit (Nat.isDigit_of_mem_toDigits (by decide) (by decide) h)⟩,
    by decide, fun h => hdigit (isDigit_of_mem_padded h)⟩
  cases x.negative <;> decide

end Number

namespace PackageReport

def failureHeading (target : String) : String :=
  "The following packages are not importable in " ++ target ++ ":\n\n"

def failurePart (r : PackageReport) : String := String.join (failureBlocks r)

def failures (r : PackageReport) : List (String × PackageResult) :=
  r.entries.filter fun e => !e.2.success

theorem failurePart_eq (r : PackageReport) :
    failurePart r = String.join ((failures r).map fun e => failureBlock e.1 e.2) := by
  rw [failurePart, failureBlocks, failures]

theorem failureText_eq (target : String) (r : PackageReport) :
    failureText target r = failureHeading target ++ failurePart r ++ troubleshooting := by
  unfold failureText failureHeading failurePart
  rw [join_empty_eq]

theorem failureText_of_failures_eq (target : String) {r r' : PackageReport}
    (h : failures r' = failures r) : failureText target r' = failureText target r := by
  rw [failureText_eq, failureText_eq, failurePart_eq, failurePart_eq, h]

theorem failures_append (first second : List (String × PackageResult)) :
    failures ⟨first ++ second⟩ = failures ⟨first⟩ ++ failures ⟨second⟩ :=
  List.filter_append first second

theorem failures_insert_success (before after : List (String × PackageResult))
    {entry : String × PackageResult} (h : entry.2.success = true) :
    failures ⟨before ++ entry :: after⟩ = failures ⟨before ++ after⟩ := by
  rw [failures_append, failures_append]
  congr 1
  exact List.filter_cons_of_neg (by simp [h])

theorem failurePart_join {r r' : PackageReport} (hnodup : r'.names.Nodup)
    (hdisjoint : r.names.Disjoint r'.names) :
    failurePart (r.join r') = failurePart r ++ failurePart r' := by
  have hfailures : failures (r.join r') = failures r ++ failures r' := by
    rw [failures, Ledger.entries_join_of_disjoint hnodup hdisjoint]
    exact failures_append r.entries r'.entries
  simp only [failurePart_eq, hfailures, List.map_append, String.join_append]

def indent : List Char := List.replicate 7 ' '

def excerptTitle : List Char := "     Pod Logs (excerpt):".toList

/-- The log excerpt that a block shows.  Its lines are the indented ones at the end of the block,
which come right after the line that announces them. -/
def shownExcerpt? (block : String) : Option String :=
  -- A block ends with an empty line, and splitting leaves one more empty piece after that.
  let fromEnd := (splitAtChar '\n' block.toList).reverse.drop 2
  if (fromEnd.dropWhile indent.isPrefixOf).head? = some excerptTitle then
    let shown := (fromEnd.takeWhile indent.isPrefixOf).reverse
    some (String.ofList (['\n'].intercalate (shown.map (·.drop indent.length))))
  else none

def failureOpening (name : String) (result : PackageResult) : String :=
  "  ❌ " ++ name ++ ":\n     Error: " ++ result.errorMessage.getD "unknown error" ++
    "\n     Command: " ++ result.command

def timeLine (result : PackageResult) : List Char :=
  ("     Execution Time: " ++ result.seconds.hundredths ++ "s").toList

def excerptLines (result : PackageResult) : List (List Char) :=
  match result.logs with
  | none => []
  | some logs =>
      if logs.isEmpty then []
      else excerptTitle :: (splitAtChar '\n' (excerpt logs).toList).map (indent ++ ·)

theorem toList_excerptBlock (result : PackageResult) :
    (excerptBlock result).toList = (excerptLines result).flatMap (· ++ ['\n']) := by
  rw [excerptBlock, excerptLines]
  cases result.logs with
  | none => rfl
  | some logs =>
      dsimp only
      by_cases hlogs : logs.isEmpty = true
      · rw [if_pos hlogs, if_pos hlogs]
        rfl
      · rw [if_neg hlogs, if_neg hlogs, join_empty_eq, String.toList_append, String.toList_join,
          List.flatMap_cons]
        simp only [pieces, List.flatMap_map, String.toList_append, String.toList_ofList]
        rfl

theorem toList_failureBlock (name : String) (result : PackageResult) :
    (failureBlock name result).toList =
      (failureOpening name result).toList ++ '\n' ::
        ((timeLine result :: excerptLines result).flatMap (· ++ ['\n']) ++ ['\n']) := by
  have htime : "\n     Execution Time: ".toList = '\n' :: "     Execution Time: ".toList := rfl
  have hunit : "s\n".toList = "s".toList ++ ['\n'] := rfl
  have hend : "\n".toList = ['\n'] := rfl
  unfold failureBlock failureOpening timeLine
  simp only [String.toList_append, toList_excerptBlock, List.flatMap_cons, List.append_assoc,
    List.cons_append, List.nil_append]
  rw [htime, hunit, hend, List.cons_append, List.append_assoc, List.singleton_append]

theorem newline_not_mem_timeLine (result : PackageResult) : '\n' ∉ timeLine result := by
  have htime : '\n' ∉ "     Execution Time: ".toList := by decide
  have hunit : '\n' ∉ "s".toList := by decide
  simp only [timeLine, String.toList_append, List.mem_append, not_or]
  exact ⟨⟨htime, newline_not_mem_toPlaces 2 result.seconds⟩, hunit⟩

theorem newline_not_mem_of_mem_excerptLines {result : PackageResult} {line : List Char}
    (h : line ∈ excerptLines result) : '\n' ∉ line := by
  have htitle : '\n' ∉ excerptTitle := by decide
  have hindent : '\n' ∉ indent := by decide
  rw [excerptLines] at h
  cases hlogs : result.logs with
  | none => simp [hlogs] at h
  | some logs =>
      simp only [hlogs] at h
      by_cases hempty : logs.isEmpty = true
      · simp [hempty] at h
      · rw [if_neg hempty] at h
        rcases List.mem_cons.mp h with rfl | h
        · exact htitle
        · obtain ⟨piece, hpiece, rfl⟩ := List.mem_map.mp h
          rw [List.mem_append, not_or]
          exact ⟨hindent, not_mem_of_mem_splitAtChar hpiece⟩

theorem reverse_lines_failureBlock (name : String) (result : PackageResult) :
    (splitAtChar '\n' (failureBlock name result).toList).reverse.drop 2 =
      (excerptLines result).reverse ++ timeLine result ::
        (splitAtChar '\n' (failureOpening name result).toList).reverse := by
  have hlines : ∀ line ∈ timeLine result :: excerptLines result, '\n' ∉ line := by
    rw [List.forall_mem_cons]
    exact ⟨newline_not_mem_timeLine result, fun line => newline_not_mem_of_mem_excerptLines⟩
  have hend : splitAtChar '\n' ['\n'] = [[], []] := rfl
  rw [toList_failureBlock, splitAtChar_eq_splitOn, List.splitOn_append_cons_self,
    ← splitAtChar_eq_splitOn, ← splitAtChar_eq_splitOn, splitAtChar_flatMap hlines, hend]
  simp

theorem exists_timeLine_eq (result : PackageResult) :
    ∃ rest, timeLine result = "     E".toList ++ rest := by
  have htime : "     Execution Time: ".toList = "     E".toList ++ "xecution Time: ".toList := rfl
  rw [timeLine, String.toList_append, String.toList_append, htime, List.append_assoc,
    List.append_assoc]
  exact ⟨_, rfl⟩

theorem not_indented_timeLine (result : PackageResult) :
    ¬ indent.isPrefixOf (timeLine result) = true := by
  obtain ⟨rest, hrest⟩ := exists_timeLine_eq result
  rw [hrest]
  exact Bool.false_ne_true

theorem not_indented_excerptTitle : ¬ indent.isPrefixOf excerptTitle = true := by decide

theorem timeLine_ne_excerptTitle (result : PackageResult) : timeLine result ≠ excerptTitle := by
  obtain ⟨rest, hrest⟩ := exists_timeLine_eq result
  intro h
  have hstart : "     E".toList <+: excerptTitle := ⟨rest, hrest.symm.trans h⟩
  exact absurd hstart (by decide)

theorem shownExcerpt?_of_no_lines (name : String) {result : PackageResult}
    (h : excerptLines result = []) : shownExcerpt? (failureBlock name result) = none := by
  rw [shownExcerpt?, reverse_lines_failureBlock, h, List.reverse_nil, List.nil_append,
    List.dropWhile_cons_of_neg (not_indented_timeLine result), List.head?_cons, if_neg]
  rw [Option.some_inj]
  exact timeLine_ne_excerptTitle result

theorem shownExcerpt?_of_lines (name : String) {result : PackageResult}
    {lines : List (List Char)}
    (h : excerptLines result = excerptTitle :: lines.map (indent ++ ·)) :
    shownExcerpt? (failureBlock name result) =
      some (String.ofList (['\n'].intercalate lines)) := by
  have hindented : ∀ line ∈ (lines.map (indent ++ ·)).reverse, indent.isPrefixOf line = true := by
    intro line hline
    obtain ⟨rest, -, rfl⟩ := List.mem_map.mp (List.mem_reverse.mp hline)
    rw [List.isPrefixOf_iff_prefix]
    exact List.prefix_append indent rest
  rw [shownExcerpt?, reverse_lines_failureBlock, h, List.reverse_cons, List.append_assoc,
    List.singleton_append, List.takeWhile_append_of_pos hindented,
    List.dropWhile_append_of_pos hindented,
    List.dropWhile_cons_of_neg not_indented_excerptTitle,
    List.takeWhile_cons_of_neg not_indented_excerptTitle, List.head?_cons]
  simp [Function.comp_def]

/-- A log that is not empty is shown up to the given length, whatever its lines are. -/
theorem shownExcerpt?_of_logs (name : String) {result : PackageResult} {logs : String}
    (h : result.logs = some logs) (hlogs : logs ≠ "") :
    shownExcerpt? (failureBlock name result) = some (excerpt logs) := by
  have hlines : excerptLines result =
      excerptTitle :: (splitAtChar '\n' (excerpt logs).toList).map (indent ++ ·) := by
    rw [excerptLines, h]
    dsimp only
    rw [if_neg (by rwa [String.isEmpty_iff])]
  rw [shownExcerpt?_of_lines name hlines, splitAtChar_eq_splitOn, List.intercalate_splitOn,
    String.ofList_toList]

theorem shownExcerpt?_of_no_logs (name : String) {result : PackageResult}
    (h : result.logs = none ∨ result.logs = some "") :
    shownExcerpt? (failureBlock name result) = none := by
  apply shownExcerpt?_of_no_lines
  rcases h with h | h <;> rw [excerptLines, h]
  rfl

/-- The text about failures consists of a heading, a block for each failed result and what to do
about them, so it tells nothing of the results that are not failed or of where they stand, and the
blocks of one report after those of another are the blocks of both.  (A name comes once in every
report that has been built by adding results.)  A block shows the first 500 characters of its log
line by line if there is a log that is not empty, and otherwise no log. -/
theorem failure_text_tells_failures (target : String) (r : PackageReport) :
    (failureText target r = failureHeading target ++ failurePart r ++ troubleshooting ∧
      failurePart r = String.join ((failures r).map fun e => failureBlock e.1 e.2)) ∧
    (∀ r', failures r' = failures r → failureText target r' = failureText target r) ∧
    (∀ before entry after, r.entries = before ++ entry :: after → entry.2.success = true →
      failureText target ⟨before ++ after⟩ = failureText target r) ∧
    (∀ r' : PackageReport, r'.names.Nodup → r.names.Disjoint r'.names →
      failurePart (r.join r') = failurePart r ++ failurePart r') ∧
    ∀ entry ∈ failures r,
      (∀ logs, entry.2.logs = some logs → logs ≠ "" →
        shownExcerpt? (failureBlock entry.1 entry.2) =
          some (String.ofList (logs.toList.take (min 500 logs.length)))) ∧
      (entry.2.logs = none ∨ entry.2.logs = some "" →
        shownExcerpt? (failureBlock entry.1 entry.2) = none) := by
  refine ⟨⟨failureText_eq target r, failurePart_eq r⟩,
    fun _ => failureText_of_failures_eq target, ?_, fun _ => failurePart_join, ?_⟩
  · intro before entry after hentries hsuccess
    obtain ⟨entries⟩ := r
    cases hentries
    exact failureText_of_failures_eq target (failures_insert_success before after hsuccess).symm
  · intro entry _
    refine ⟨fun logs hlogs hne => ?_, shownExcerpt?_of_no_logs entry.1⟩
    rw [shownExcerpt?_of_logs entry.1 hlogs hne, excerpt, excerptLength, ← String.length_toList,
      ← List.take_eq_take_min]

def brokenImport (package : String) (logs : Option String) : PackageResult where
  package
  success := false
  errorMessage := none
  command := "python -c " ++ package
  seconds := Binary64.ofMillis 457
  logs
  stdout := ""
  stderr := ""

/-- A log of more characters than are shown, in which the last one that is shown ends a line. -/
def longLog : String := String.ofList (List.replicate 498 'é' ++ "\r\nend".toList)

/-- A report on three imports, of which the first one succeeded and the last one has no log. -/
def threeImports : PackageReport :=
  ⟨[("os", { brokenImport "os" none with success := true }),
    ("torch", brokenImport "torch" (some longLog)), ("numpy", brokenImport "numpy" none)]⟩

theorem failure_text_of_three_imports :
    let more : PackageReport := ⟨[("attrs", brokenImport "attrs" (some "\n"))]⟩
    failureText "nb" ⟨threeImports.entries.tail⟩ = failureText "nb" threeImports ∧
      failurePart (threeImports.join more) = failurePart threeImports ++ failurePart more ∧
      shownExcerpt? (failureBlock "torch" (brokenImport "torch" (some longLog))) =
        some (String.ofList (List.replicate 498 'é' ++ ['\r', '\n'])) ∧
      shownExcerpt? (failureBlock "numpy" (brokenImport "numpy" none)) = none := by
  intro more
  obtain ⟨-, -, hremoved, hjoin, hblocks⟩ := failure_text_tells_failures "nb" threeImports
  have hnames : threeImports.names.Disjoint more.names := by
    rw [List.disjoint_iff_ne]
    decide
  have hfailures : failures threeImports =
      [("torch", brokenImport "torch" (some longLog)), ("numpy", brokenImport "numpy" none)] := rfl
  rw [hfailures, List.forall_mem_cons, List.forall_mem_singleton] at hblocks
  obtain ⟨⟨htorch, -⟩, -, hnumpy⟩ := hblocks
  have hlong : longLog.toList = List.replicate 498 'é' ++ ['\r', '\n', 'e', 'n', 'd'] :=
    String.toList_ofList
  have hlength : longLog.length = 503 := by
    rw [← String.length_toList, hlong, List.length_append, List.length_replicate]
    rfl
  have hne : longLog ≠ "" := by
    intro h
    rw [h] at hlength
    cases hlength
  refine ⟨hremoved [] _ _ rfl rfl, hjoin more (by decide) hnames, ?_, hnumpy (.inl rfl)⟩
  rw [htorch longLog rfl hne, hlong, hlength, List.take_append, List.length_replicate,
    List.take_of_length_le (by rw [List.length_replicate]; decide)]
  rfl

end PackageReport

end NotebookCheck

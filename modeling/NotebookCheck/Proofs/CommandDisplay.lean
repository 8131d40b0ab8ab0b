import NotebookCheck.Command
import NotebookCheck.Proofs.PackageName
import NotebookCheck.Proofs.SettingsBounds
import NotebookCheck.Proofs.ShellWords

/-!
Commands as they are shown, read back by the quoting rules of the shell.  A command that is shown
word by word is read back as its words, whatever they are.  The command that runs code shows its
runtime as it stands, so it is read back exactly if the runtime has no quotes and no backslashes.
-/

namespace NotebookCheck

open Shell

def quotedPieces (c : Char) : List Piece :=
  if c = '\'' then [.quote, .escaped '\'', .quote] else [.quoted c]

def quotedWordPieces (word : List Char) : List Piece :=
  .quote :: word.flatMap quotedPieces ++ [.quote]

theorem scan_quotedPart (c : Char) : scan .single (quotedPart c) = (quotedPieces c, .single) := by
  by_cases hc : c = '\''
  · subst hc
    rfl
  · simp [quotedPart, quotedPieces, scan, step, hc]

theorem scan_flatMap_quotedPart (word : List Char) :
    scan .single (word.flatMap quotedPart) = (word.flatMap quotedPieces, .single) := by
  induction word with
  | nil => rfl
  | cons c rest ih =>
      rw [List.flatMap_cons, scan_append, scan_quotedPart, ih, List.flatMap_cons]

theorem scan_quotedWord (word : List Char) :
    scan .bare (quotedWord word) = (quotedWordPieces word, .bare) := by
  have hopen : step .bare '\'' = ([.quote], .single) := rfl
  have hclose : scan .single ['\''] = ([.quote], .bare) := rfl
  rw [quotedWord, List.cons_append, scan, hopen, scan_append, scan_flatMap_quotedPart, hclose]
  rfl

theorem textOf_quotedPieces (c : Char) : textOf (quotedPieces c) = [c] := by
  by_cases hc : c = '\''
  · subst hc
    rfl
  · rw [quotedPieces, if_neg hc]
    rfl

theorem textOf_flatMap_quotedPieces (word : List Char) :
    textOf (word.flatMap quotedPieces) = word := by
  induction word with
  | nil => rfl
  | cons c rest ih => rw [List.flatMap_cons, textOf_append, textOf_quotedPieces, ih]; rfl

theorem textOf_quotedWordPieces (word : List Char) : textOf (quotedWordPieces word) = word := by
  rw [quotedWordPieces, List.cons_append, ← List.singleton_append, textOf_append, textOf_append,
    textOf_flatMap_quotedPieces]
  exact List.append_nil word

def written : Piece → List Char
  | .blank => [' ']
  | .quote => ['\'']
  | .bare c => [c]
  | .escaped c => ['\\', c]
  | .quoted c => [c]

theorem written_quotedPieces (c : Char) : (quotedPieces c).flatMap written = quotedPart c := by
  by_cases hc : c = '\''
  · subst hc
    rfl
  · rw [quotedPieces, quotedPart, if_neg hc, if_neg hc]
    rfl

theorem written_quotedWordPieces (word : List Char) :
    (quotedWordPieces word).flatMap written = quotedWord word := by
  have hword : (word.flatMap quotedPieces).flatMap written = word.flatMap quotedPart := by
    rw [List.flatMap_assoc]
    exact List.flatMap_congr fun c _ => written_quotedPieces c
  rw [quotedWordPieces, List.cons_append, List.flatMap_cons, List.flatMap_append, hword]
  rfl

def shownPieces (word : List Char) : List Piece :=
  if !word.isEmpty && word.all isPlain then word.map .bare else quotedWordPieces word

theorem isPlain_iff (c : Char) :
    isPlain c = true ↔ IsIdentifierPart c ∨ c ∈ ['-', '.', '/', '='] := by
  rw [← isNamePart_iff]
  simp only [isPlain, isNamePart, Bool.or_eq_true, decide_eq_true_eq, List.mem_cons,
    List.not_mem_nil, or_false]
  tauto

theorem not_special_of_isPlain {c : Char} (h : isPlain c = true) :
    isBlank c = false ∧ isSpecial c = false := by
  constructor
  · rw [← Bool.not_eq_true, isBlank_iff]
    rintro (rfl | rfl | rfl) <;> exact absurd h (by decide)
  · rw [← Bool.not_eq_true, isSpecial_iff]
    rintro (rfl | rfl | rfl) <;> exact absurd h (by decide)

theorem scan_shownWord (word : List Char) :
    scan .bare (shownWord word) = (shownPieces word, .bare) := by
  rw [shownWord, shownPieces]
  split
  case isTrue hplain =>
    rw [Bool.and_eq_true, List.all_eq_true] at hplain
    exact scan_of_not_special fun c hc => not_special_of_isPlain (hplain.2 c hc)
  case isFalse => exact scan_quotedWord word

/-- A piece that the showing of a word may bring about: a quote, what stands between quotes, an
escaped single quote, and outside quotes only letters from A to Z, digits and a few signs. -/
def IsHarmless : Piece → Prop
  | .blank => False
  | .quote => True
  | .bare c => IsIdentifierPart c ∨ c ∈ ['-', '.', '/', '=']
  | .escaped c => c = '\''
  | .quoted _ => True

/-- Pieces show a word: they make its characters, and each of them is harmless. -/
structure Shows (word : String) (pieces : List Piece) : Prop where
  text : textOf pieces = word.toList
  harmless : ∀ piece ∈ pieces, IsHarmless piece

theorem isHarmless_of_mem_quotedPieces {c : Char} {piece : Piece}
    (h : piece ∈ quotedPieces c) : IsHarmless piece := by
  by_cases hc : c = '\''
  · rw [quotedPieces, if_pos hc] at h
    simp only [List.mem_cons, List.not_mem_nil, or_false] at h
    rcases h with rfl | rfl | rfl
    · trivial
    · rfl
    · trivial
  · rw [quotedPieces, if_neg hc, List.mem_singleton] at h
    subst h
    trivial

theorem isHarmless_of_mem_quotedWordPieces {word : List Char} {piece : Piece}
    (h : piece ∈ quotedWordPieces word) : IsHarmless piece := by
  simp only [quotedWordPieces, List.cons_append, List.mem_cons, List.mem_append,
    List.not_mem_nil, or_false, List.mem_flatMap] at h
  rcases h with rfl | ⟨c, -, hmem⟩ | rfl
  · trivial
  · exact isHarmless_of_mem_quotedPieces hmem
  · trivial

theorem blank_not_mem_quotedWordPieces (word : List Char) : .blank ∉ quotedWordPieces word :=
  fun hblank => isHarmless_of_mem_quotedWordPieces hblank

theorem shows_shownPieces (word : String) : Shows word (shownPieces word.toList) := by
  rw [shownPieces]
  split
  case isTrue hplain =>
    rw [Bool.and_eq_true, List.all_eq_true] at hplain
    refine ⟨textOf_map_bare _, fun piece hpiece => ?_⟩
    obtain ⟨c, hc, rfl⟩ := List.mem_map.mp hpiece
    exact (isPlain_iff c).mp (hplain.2 c hc)
  case isFalse =>
    exact ⟨textOf_quotedWordPieces _, fun _ => isHarmless_of_mem_quotedWordPieces⟩

theorem written_shownPieces (word : List Char) :
    (shownPieces word).flatMap written = shownWord word := by
  rw [shownPieces, shownWord]
  split
  case isTrue => rw [List.flatMap_map]; exact List.flatMap_singleton' word
  case isFalse => exact written_quotedWordPieces word

theorem shownPieces_ne_nil (word : List Char) : shownPieces word ≠ [] := by
  rw [shownPieces]
  split
  case isTrue hplain =>
    rw [Bool.and_eq_true] at hplain
    cases word with
    | nil => exact absurd hplain.1 (by decide)
    | cons c rest => exact List.cons_ne_nil _ _
  case isFalse => exact List.cons_ne_nil _ _

theorem blank_not_mem_shownPieces (word : List Char) : .blank ∉ shownPieces word := by
  intro hblank
  rw [← String.toList_ofList (l := word)] at hblank
  exact (shows_shownPieces _).harmless _ hblank

theorem toList_display_ofWords (argv : List String) :
    (Command.ofWords argv).display.toList =
      [' '].intercalate (argv.map fun word => shownWord word.toList) := by
  rw [Command.ofWords, Text.join, String.toList_intercalate, List.map_map]
  simp [Function.comp_def]

theorem scan_intercalate_shownWord (argv : List (List Char)) :
    scan .bare ([' '].intercalate (argv.map shownWord)) =
      ([.blank].intercalate (argv.map shownPieces), .bare) := by
  induction argv with
  | nil => rfl
  | cons word rest ih =>
      cases rest with
      | nil => simpa using scan_shownWord word
      | cons next rest =>
          have hspace : scan .bare [' '] = ([.blank], .bare) := rfl
          simp only [List.map_cons, List.intercalate_cons_cons] at ih ⊢
          rw [scan_append, scan_append, scan_shownWord, hspace, ih]

theorem scan_display_ofWords (argv : List String) :
    scan .bare (Command.ofWords argv).display.toList =
      ([.blank].intercalate (argv.map fun word => shownPieces word.toList), .bare) := by
  rw [toList_display_ofWords]
  have hscan := scan_intercalate_shownWord (argv.map String.toList)
  rwa [List.map_map, List.map_map] at hscan

theorem written_intercalate (parts : List (List Piece)) :
    ([.blank].intercalate parts).flatMap written =
      [' '].intercalate (parts.map (List.flatMap written)) := by
  induction parts with
  | nil => rfl
  | cons part parts ih =>
      cases parts with
      | nil => simp
      | cons next parts =>
          simp only [List.map_cons, List.intercalate_cons_cons, List.flatMap_append] at ih ⊢
          rw [ih]
          rfl

theorem written_display_ofWords (argv : List String) :
    ([.blank].intercalate (argv.map fun word => shownPieces word.toList)).flatMap written =
      (Command.ofWords argv).display.toList := by
  rw [written_intercalate, toList_display_ofWords, List.map_map]
  congr 1
  exact List.map_congr_left fun word _ => written_shownPieces word.toList

theorem words_display_ofWords (argv : List String) :
    words (Command.ofWords argv).display = some argv := by
  have hgather : gather none
      ([.blank].intercalate (argv.map fun word => shownPieces word.toList)) =
        argv.map String.toList := by
    rw [gather_intercalate, List.map_map]
    · exact List.map_congr_left fun word _ => (shows_shownPieces word).text
    · intro part hpart
      obtain ⟨word, -, rfl⟩ := List.mem_map.mp hpart
      exact blank_not_mem_shownPieces _
    · intro part hpart
      obtain ⟨word, -, rfl⟩ := List.mem_map.mp hpart
      exact shownPieces_ne_nil _
  rw [words_eq_some_iff, scan_display_ofWords]
  exact ⟨rfl, hgather⟩

/-- A command that is shown word by word is read back as its words, whatever they are, so commands
of different words are shown differently.  All characters that are shown belong to the words, with
single spaces between them, and each word has nothing outside single quotes but letters, digits, a
few signs and escaped quotes. -/
theorem shown_command_is_read_back (argv : List String) :
    words (Command.ofWords argv).display = some (Command.ofWords argv).argv ∧
      (∀ other, (Command.ofWords other).display = (Command.ofWords argv).display ↔
        other = argv) ∧
      ∃ parts, scan .bare (Command.ofWords argv).display.toList =
          ([.blank].intercalate parts, .bare) ∧
        ([.blank].intercalate parts).flatMap written = (Command.ofWords argv).display.toList ∧
        List.Forall₂ Shows argv parts := by
  refine ⟨words_display_ofWords argv, fun other => ⟨fun hdisplay => ?_, ?_⟩,
    _, scan_display_ofWords argv, written_display_ofWords argv, ?_⟩
  · have hother := words_display_ofWords other
    rw [hdisplay, words_display_ofWords] at hother
    exact (Option.some_inj.mp hother).symm
  · rintro rfl
    rfl
  · rw [List.forall₂_map_right_iff, List.forall₂_same]
    exact fun word _ => shows_shownPieces word

example : words (Command.ofWords ["echo", "", "it's \"so\""]).display =
    some ["echo", "", "it's \"so\""] := by decide +kernel

theorem isBlank_of_executableName {s : String} (h : Settings.isExecutableName s = true) :
    ∀ c ∈ s.toList, isBlank c = false := by
  intro c hc
  simp only [Settings.isExecutableName, Text.hasBlank, Bool.and_eq_true, Bool.not_eq_true',
    List.any_eq_false] at h
  have hblank := h.2 c hc
  rw [← Bool.not_eq_true, isBlank_iff]
  rintro (rfl | rfl | rfl) <;> exact hblank (by decide)

def snippetRest (code : String) : List Char := '-' :: 'c' :: ' ' :: quotedWord code.toList

theorem toList_display_snippet (runtime code : String) :
    (Command.snippet runtime code).display.toList =
      runtime.toList ++ ' ' :: snippetRest code := by
  simp [Command.snippet, snippetRest]

theorem scan_snippetRest (code : String) :
    scan .bare (snippetRest code) =
      ([.bare '-', .bare 'c'] ++ .blank :: quotedWordPieces code.toList, .bare) := by
  have hstart : scan .bare ['-', 'c', ' '] = ([.bare '-', .bare 'c', .blank], .bare) := rfl
  have hscan := scan_append .bare ['-', 'c', ' '] (quotedWord code.toList)
  rwa [hstart, scan_quotedWord] at hscan

theorem gather_snippetRest (code : String) :
    gather none (scan .bare (snippetRest code)).1 = [['-', 'c'], code.toList] := by
  rw [scan_snippetRest, gather_append_blank, gather_of_no_blank (by decide) (by decide),
    gather_of_no_blank (blank_not_mem_quotedWordPieces _) (List.cons_ne_nil _ _),
    textOf_quotedWordPieces]
  rfl

/-- A command that runs code with a runtime that has no blanks is read back as its words exactly if
the runtime has no quotes and no backslashes. -/
theorem words_display_snippet_iff {runtime : String} (code : String)
    (h : Settings.isExecutableName runtime = true) :
    words (Command.snippet runtime code).display = some [runtime, "-c", code] ↔
      ∀ c ∈ runtime.toList, isSpecial c = false := by
  have hblank := isBlank_of_executableName h
  rw [words_eq_some_iff, toList_display_snippet]
  constructor
  · rintro ⟨-, hgather⟩
    exact not_special_of_gather hblank (gather_snippetRest code) hgather
  · intro hspecial
    have hruntime : scan .bare runtime.toList = (runtime.toList.map .bare, .bare) :=
      scan_of_not_special fun c hc => ⟨hblank c hc, hspecial c hc⟩
    have hne : runtime.toList.map Piece.bare ≠ [] := by
      simp only [Settings.isExecutableName, Bool.and_eq_true, Bool.not_eq_true'] at h
      simpa using h.1
    have hnone : .blank ∉ runtime.toList.map Piece.bare := by simp
    have hspace : step .bare ' ' = ([.blank], .bare) := rfl
    rw [scan_append, hruntime, scan, hspace]
    refine ⟨?_, ?_⟩
    · rw [scan_snippetRest]
    · rw [List.singleton_append, gather_append_blank, gather_snippetRest,
        gather_of_no_blank hnone hne, textOf_map_bare]
      rfl

def IsUnquoted (s : String) : Prop := ∀ c ∈ s.toList, c ≠ '\'' ∧ c ≠ '"' ∧ c ≠ '\\'

theorem isUnquoted_iff (s : String) :
    IsUnquoted s ↔ ∀ c ∈ s.toList, isSpecial c = false := by
  simp only [IsUnquoted, ← Bool.not_eq_true, isSpecial_iff, not_or]

/-- With settings that pass their check, a command that runs code or imports a package is read back
as the words that are run, whatever the code is, exactly if the runtime has no quotes and no
backslashes. -/
theorem code_command_is_read_back_iff (settings : Settings) (h : settings.check = .ok ()) :
    (∀ code, words (Command.snippet settings.runtime code).display =
        some (Command.snippet settings.runtime code).argv ↔ IsUnquoted settings.runtime) ∧
      ∀ package, words (Command.importing settings.runtime package).display =
        some (Command.importing settings.runtime package).argv ↔ IsUnquoted settings.runtime := by
  have hruntime := ((Settings.check_eq_ok_iff settings).mp h).runtime
  rw [isUnquoted_iff]
  exact ⟨fun code => words_display_snippet_iff code hruntime,
    fun package => words_display_snippet_iff (Command.importCode package) hruntime⟩

theorem code_command_of_versioned_runtime :
    let settings : Settings := { runtime := "/opt/python-3.11/bin/python" }
    settings.check = .ok () ∧
      words (Command.snippet settings.runtime "print('a b')\n").display =
        some ["/opt/python-3.11/bin/python", "-c", "print('a b')\n"] := by
  intro settings
  have hcheck : settings.check = .ok () := by decide +kernel
  have hplain : settings.runtime.toList.all (!isSpecial ·) = true := by decide +kernel
  have hunquoted : IsUnquoted settings.runtime := by
    simpa [isUnquoted_iff] using hplain
  exact ⟨hcheck, ((code_command_is_read_back_iff settings hcheck).1 "print('a b')\n").mpr hunquoted⟩

/-- A runtime whose name has a single quote passes the check and is shown as it stands, so that the
quotes of the command do not match. -/
theorem code_command_of_quoted_runtime :
    let settings : Settings := { runtime := "/opt/it's/python" }
    settings.check = .ok () ∧
      (Command.importing settings.runtime "os").argv = ["/opt/it's/python", "-c", "import os"] ∧
      words (Command.importing settings.runtime "os").display = none := by
  decide +kernel

/-- A runtime with backslashes is read as another one. -/
example : words (Command.importing "C:\\Python\\python" "os").display =
    some ["C:Pythonpython", "-c", "import os"] := by decide +kernel

end NotebookCheck

import Mathlib.Data.List.Basic

/-!
The words of a text by the quoting rules of the POSIX shell.  Blanks end a word; single quotes keep
all characters up to the next one; double quotes keep all but a backslash before a character that
it can escape there; elsewhere a backslash keeps the character after it.  Nothing else has a
meaning of its own, so there are no expansions, operators or comments.

A text is first read into pieces, character by character, and the pieces are then gathered into
words.  A word without quotes and backslashes is read as it stands, and a word with one of them
never is.
-/

namespace NotebookCheck.Shell

/-- Where a reader stands in a text: outside quotes, between single quotes or between double quotes,
and in the first and the last case perhaps right after a backslash. -/
inductive Place where
  | bare
  | escape
  | single
  | double
  | doubleEscape
deriving DecidableEq

/-- What the characters of a text are taken for: blanks between words, quotes that open or close, and
characters of a word that stand outside quotes, after a backslash or between quotes. -/
inductive Piece where
  | blank
  | quote
  | bare (c : Char)
  | escaped (c : Char)
  | quoted (c : Char)
deriving DecidableEq

def isBlank (c : Char) : Bool := c = ' ' || c = '\t' || c = '\n'

def isSpecial (c : Char) : Bool := c = '\'' || c = '"' || c = '\\'

def isEscapable (c : Char) : Bool := c = '$' || c = '\x60' || c = '"' || c = '\\'

/-- What a character is taken for, and where the reader stands after it.  Outside single quotes a
backslash before a line feed goes away together with it. -/
def step : Place → Char → List Piece × Place
  | .bare, c =>
      if isBlank c then ([.blank], .bare)
      else if c = '\'' then ([.quote], .single)
      else if c = '"' then ([.quote], .double)
      else if c = '\\' then ([], .escape)
      else ([.bare c], .bare)
  | .escape, c => (if c = '\n' then [] else [.escaped c], .bare)
  | .single, c => if c = '\'' then ([.quote], .bare) else ([.quoted c], .single)
  | .double, c =>
      if c = '"' then ([.quote], .bare)
      else if c = '\\' then ([], .doubleEscape)
      else ([.quoted c], .double)
  | .doubleEscape, c =>
      (if c = '\n' then []
        else if isEscapable c then [.escaped c]
        else [.quoted '\\', .quoted c], .double)

/-- The pieces of a text that is read from a place on, and where the reader stands at its end. -/
def scan : Place → List Char → List Piece × Place
  | place, [] => ([], place)
  | place, c :: rest =>
      ((step place c).1 ++ (scan (step place c).2 rest).1, (scan (step place c).2 rest).2)

def Piece.text : Piece → List Char
  | .blank => []
  | .quote => []
  | .bare c => [c]
  | .escaped c => [c]
  | .quoted c => [c]

def textOf (pieces : List Piece) : List Char := pieces.flatMap Piece.text

/-- The words that pieces make.  If a word has been begun before them, the first pieces go on with
it. -/
def gather : Option (List Char) → List Piece → List (List Char)
  | begun, [] => begun.toList
  | begun, piece :: rest =>
      if piece = .blank then begun.toList ++ gather none rest
      else gather (some (begun.getD [] ++ piece.text)) rest

/-- The words of a text.  A text that ends between quotes or right after a backslash has none. -/
def words (text : String) : Option (List String) :=
  if (scan .bare text.toList).2 = .bare then
    some ((gather none (scan .bare text.toList).1).map String.ofList)
  else none

theorem isBlank_iff (c : Char) : isBlank c = true ↔ c = ' ' ∨ c = '\t' ∨ c = '\n' := by
  simp [isBlank, or_assoc]

theorem isSpecial_iff (c : Char) : isSpecial c = true ↔ c = '\'' ∨ c = '"' ∨ c = '\\' := by
  simp [isSpecial, or_assoc]

theorem words_eq_some_iff (text : String) (ws : List String) :
    words text = some ws ↔
      (scan .bare text.toList).2 = .bare ∧
        gather none (scan .bare text.toList).1 = ws.map String.toList := by
  rw [words]
  split
  case isTrue hplace =>
    rw [Option.some_inj]
    constructor
    · rintro rfl
      simp [hplace, Function.comp_def]
    · rintro ⟨-, hgather⟩
      simp [hgather, Function.comp_def]
  case isFalse hplace => simp [hplace]

theorem scan_append (place : Place) (first second : List Char) :
    scan place (first ++ second) =
      ((scan place first).1 ++ (scan (scan place first).2 second).1,
        (scan (scan place first).2 second).2) := by
  induction first generalizing place with
  | nil => rfl
  | cons c rest ih => simp only [List.cons_append, scan, ih, List.append_assoc]

theorem textOf_append (first second : List Piece) :
    textOf (first ++ second) = textOf first ++ textOf second :=
  List.flatMap_append

theorem gather_append_blank (begun : Option (List Char)) (first second : List Piece) :
    gather begun (first ++ .blank :: second) = gather begun first ++ gather none second := by
  induction first generalizing begun with
  | nil => simp [gather]
  | cons piece rest ih =>
      rw [List.cons_append, gather, gather]
      split
      · rw [ih, List.append_assoc]
      · rw [ih]

theorem gather_some_append (word : List Char) {first : List Piece} (h : .blank ∉ first)
    (second : List Piece) :
    gather (some word) (first ++ second) = gather (some (word ++ textOf first)) second := by
  induction first generalizing word with
  | nil => simp [textOf]
  | cons piece rest ih =>
      simp only [List.mem_cons, not_or] at h
      rw [List.cons_append, gather, if_neg (Ne.symm h.1), ih _ h.2]
      simp [textOf]

theorem gather_none_append {first : List Piece} (h : .blank ∉ first) (hne : first ≠ [])
    (second : List Piece) :
    gather none (first ++ second) = gather (some (textOf first)) second := by
  cases first with
  | nil => exact absurd rfl hne
  | cons piece rest =>
      simp only [List.mem_cons, not_or] at h
      rw [List.cons_append, gather, if_neg (Ne.symm h.1), gather_some_append _ h.2]
      rfl

theorem gather_of_no_blank {pieces : List Piece} (h : .blank ∉ pieces) (hne : pieces ≠ []) :
    gather none pieces = [textOf pieces] := by
  have hgather := gather_none_append h hne []
  rwa [List.append_nil] at hgather

/-- Parts that have no blanks and are put together with one blank between each two are the words. -/
theorem gather_intercalate {parts : List (List Piece)} (hblank : ∀ part ∈ parts, .blank ∉ part)
    (hne : ∀ part ∈ parts, part ≠ []) :
    gather none ([.blank].intercalate parts) = parts.map textOf := by
  induction parts with
  | nil => rfl
  | cons part parts ih =>
      rw [List.forall_mem_cons] at hblank hne
      have hpart := gather_of_no_blank hblank.1 hne.1
      cases parts with
      | nil => rw [List.intercalate_singleton, hpart, List.map_singleton]
      | cons next parts =>
          rw [List.intercalate_cons_cons, List.append_assoc, List.singleton_append,
            gather_append_blank, hpart, ih hblank.2 hne.2, List.singleton_append, ← List.map_cons]

theorem exists_gather_some (word : List Char) (pieces : List Piece) :
    ∃ more others, gather (some word) pieces = (word ++ more) :: others := by
  induction pieces generalizing word with
  | nil => exact ⟨[], [], by simp [gather]⟩
  | cons piece rest ih =>
      rw [gather]
      split
      · exact ⟨[], gather none rest, by simp⟩
      · obtain ⟨more, others, hgather⟩ := ih (word ++ piece.text)
        exact ⟨piece.text ++ more, others, by simpa using hgather⟩

theorem step_of_not_special {c : Char} (hblank : isBlank c = false)
    (hspecial : isSpecial c = false) : step .bare c = ([.bare c], .bare) := by
  rw [← Bool.not_eq_true, isSpecial_iff, not_or, not_or] at hspecial
  simp [step, hblank, hspecial]

theorem scan_of_not_special {cs : List Char}
    (h : ∀ c ∈ cs, isBlank c = false ∧ isSpecial c = false) :
    scan .bare cs = (cs.map .bare, .bare) := by
  induction cs with
  | nil => rfl
  | cons c rest ih =>
      rw [List.forall_mem_cons] at h
      rw [scan, step_of_not_special h.1.1 h.1.2, ih h.2]
      rfl

theorem textOf_map_bare (cs : List Char) : textOf (cs.map .bare) = cs := by
  induction cs with
  | nil => rfl
  | cons c rest ih => rw [List.map_cons, textOf, List.flatMap_cons, ← textOf, ih]; rfl

theorem blank_not_mem_step (place : Place) {c : Char} (h : isBlank c = false) :
    .blank ∉ (step place c).1 := by
  cases place <;> simp only [step, h, Bool.false_eq_true, if_false] <;> split_ifs <;> simp

theorem blank_not_mem_scan (place : Place) {cs : List Char} (h : ∀ c ∈ cs, isBlank c = false) :
    .blank ∉ (scan place cs).1 := by
  induction cs generalizing place with
  | nil => exact List.not_mem_nil
  | cons c rest ih =>
      rw [List.forall_mem_cons] at h
      rw [scan, List.mem_append, not_or]
      exact ⟨blank_not_mem_step place h.1, ih _ h.2⟩

def Place.held : Place → ℕ
  | .doubleEscape => 1
  | _ => 0

theorem length_textOf_step_le (place : Place) (c : Char) :
    (textOf (step place c).1).length + (step place c).2.held ≤ 1 + place.held := by
  cases place <;> simp only [step] <;> split_ifs <;> simp [textOf, Piece.text, Place.held]

theorem length_textOf_scan_le (place : Place) (cs : List Char) :
    (textOf (scan place cs).1).length + (scan place cs).2.held ≤ cs.length + place.held := by
  induction cs generalizing place with
  | nil => simp [scan, textOf]
  | cons c rest ih =>
      have hstep := length_textOf_step_le place c
      have hrest := ih (step place c).2
      rw [scan, textOf_append, List.length_append, List.length_cons]
      dsimp only
      omega

theorem step_of_special {c : Char} (h : isSpecial c = true) :
    textOf (step .bare c).1 = [] ∧ (step .bare c).2.held = 0 := by
  rcases (isSpecial_iff c).mp h with rfl | rfl | rfl <;> exact ⟨rfl, rfl⟩

theorem place_step_of_not_special {c : Char} (h : isSpecial c = false) :
    (step .bare c).2 = .bare := by
  by_cases hblank : isBlank c = true
  · rw [step, if_pos hblank]
  · rw [step_of_not_special (Bool.eq_false_iff.mpr hblank) h]

theorem length_textOf_scan_lt {cs : List Char} (h : ∃ c ∈ cs, isSpecial c = true) :
    (textOf (scan .bare cs).1).length < cs.length := by
  induction cs with
  | nil => obtain ⟨c, hc, -⟩ := h; cases hc
  | cons c rest ih =>
      have hstep := length_textOf_step_le .bare c
      rw [scan, textOf_append, List.length_append, List.length_cons]
      cases hc : isSpecial c with
      | true =>
          have hrest := length_textOf_scan_le (step .bare c).2 rest
          rw [(step_of_special hc).1, List.length_nil]
          rw [(step_of_special hc).2] at hrest
          omega
      | false =>
          have hlater : ∃ special ∈ rest, isSpecial special = true := by
            obtain ⟨special, hmem, hspecial⟩ := h
            rcases List.mem_cons.mp hmem with rfl | hrest
            · rw [hc] at hspecial
              cases hspecial
            · exact ⟨special, hrest, hspecial⟩
          have hrest := ih hlater
          rw [place_step_of_not_special hc] at hstep ⊢
          simp only [Place.held] at hstep
          omega

theorem space_mem_textOf_step {place : Place} (h : place ≠ .bare) :
    ' ' ∈ textOf (step place ' ').1 ∧ .blank ∉ (step place ' ').1 := by
  cases place with
  | bare => exact absurd rfl h
  | escape | single | double | doubleEscape => decide

section

variable {word rest : List Char} {others : List (List Char)}

theorem textOf_scan_of_gather (hblank : ∀ c ∈ word, isBlank c = false)
    (hplace : (scan .bare word).2 = .bare) (hrest : gather none (scan .bare rest).1 = others)
    {first : List Char}
    (hwords : gather none (scan .bare (word ++ ' ' :: rest)).1 = first :: others) :
    textOf (scan .bare word).1 = first := by
  have hspace : step .bare ' ' = ([.blank], .bare) := rfl
  rw [scan_append, hplace, scan, hspace, List.singleton_append, gather_append_blank, hrest,
    ← List.singleton_append, List.append_left_inj] at hwords
  have hne : (scan .bare word).1 ≠ [] := by
    intro hnil
    rw [hnil] at hwords
    cases hwords
  rw [gather_of_no_blank (blank_not_mem_scan .bare hblank) hne] at hwords
  exact (List.cons.inj hwords).1

theorem space_mem_of_gather (hblank : ∀ c ∈ word, isBlank c = false)
    (hplace : (scan .bare word).2 ≠ .bare) {first : List Char}
    (hwords : gather none (scan .bare (word ++ ' ' :: rest)).1 = first :: others) :
    ' ' ∈ first := by
  obtain ⟨hspace, hstep⟩ := space_mem_textOf_step hplace
  have hnone : .blank ∉ (scan .bare word).1 ++ (step (scan .bare word).2 ' ').1 := by
    rw [List.mem_append, not_or]
    exact ⟨blank_not_mem_scan .bare hblank, hstep⟩
  have hne : (scan .bare word).1 ++ (step (scan .bare word).2 ' ').1 ≠ [] := by
    intro hnil
    rw [(List.append_eq_nil_iff.mp hnil).2] at hspace
    cases hspace
  rw [scan_append, scan, ← List.append_assoc, gather_none_append hnone hne, textOf_append]
    at hwords
  obtain ⟨more, left, hgather⟩ := exists_gather_some
    (textOf (scan .bare word).1 ++ textOf (step (scan .bare word).2 ' ').1)
    (scan (step (scan .bare word).2 ' ').2 rest).1
  rw [hgather] at hwords
  rw [← (List.cons.inj hwords).1]
  exact List.mem_append_left _ (List.mem_append_right _ hspace)

/-- A word without blanks that is followed by others is read as it stands only if it has no quotes
and no backslashes. -/
theorem not_special_of_gather (hblank : ∀ c ∈ word, isBlank c = false)
    (hrest : gather none (scan .bare rest).1 = others)
    (hwords : gather none (scan .bare (word ++ ' ' :: rest)).1 = word :: others) :
    ∀ c ∈ word, isSpecial c = false := by
  by_contra hspecial
  simp only [not_forall, Bool.not_eq_false] at hspecial
  obtain ⟨c, hc, hspecial⟩ := hspecial
  by_cases hplace : (scan .bare word).2 = .bare
  · -- What is special in the word is lost.
    have hlength := length_textOf_scan_lt ⟨c, hc, hspecial⟩
    rw [textOf_scan_of_gather hblank hplace hrest hwords] at hlength
    exact Nat.lt_irrefl _ hlength
  · have hspace := hblank ' ' (space_mem_of_gather hblank hplace hwords)
    cases hspace

end

end NotebookCheck.Shell

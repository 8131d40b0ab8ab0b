import NotebookCheck.Proofs.SnippetCourse

/-!
Words that betray a failure, as they are found in a text itself.  They are looked for in the
lowercase of the text, where a character can become two, become a letter of the alphabet, or depend
on its neighbours.  Of all that only the Kelvin sign matters, which becomes the letter `k`: a word
is found exactly if some run of the text spells it without regard to the case of the letters from A
to Z.
-/

namespace NotebookCheck

namespace Text

/-- A character without regard to the case of the letters from A to Z; the Kelvin sign counts as
`k`. -/
def foldCase (c : Char) : Char := if c = '\u212A' then 'k' else c.toLower

/-- Two characters are the same one of the lowercase letters from a to z, or neither is one. -/
def SameLetter (c d : Char) : Prop := ∀ letter : Char, letter.isLower = true →
  (letter = c ↔ letter = d)

theorem isLower_eq_false_of_le {c : Char} (h : 0x80 ≤ c.toNat) : c.isLower = false := by
  by_contra hlower
  rw [Bool.not_eq_false] at hlower
  change (decide ('a'.val ≤ c.val) && decide (c.val ≤ 'z'.val)) = true at hlower
  simp only [Bool.and_eq_true, decide_eq_true_eq] at hlower
  have hle : c.toNat ≤ 'z'.toNat := UInt32.le_iff_toNat_le.mp hlower.2
  have hz : 'z'.toNat = 122 := rfl
  omega

theorem sameLetter_of_not_lower {c d : Char} (hc : c.isLower = false) (hd : d.isLower = false) :
    SameLetter c d := by
  intro letter hletter
  constructor
  · rintro rfl
    rw [hc] at hletter
    cases hletter
  · rintro rfl
    rw [hd] at hletter
    cases hletter

theorem toLower_of_le {c : Char} (h : 0x80 ≤ c.toNat) : c.toLower = c := by
  have hnot : ¬ (c.val ≥ 'A'.val ∧ c.val ≤ 'Z'.val) := by
    rintro ⟨-, hle⟩
    have hle : c.toNat ≤ 'Z'.toNat := UInt32.le_iff_toNat_le.mp hle
    have hz : 'Z'.toNat = 90 := rfl
    omega
  exact dif_neg hnot

theorem foldCase_of_le {c : Char} (h : 0x80 ≤ c.toNat) (hkelvin : c ≠ '\u212A') :
    foldCase c = c := by
  rw [foldCase, if_neg hkelvin, toLower_of_le h]

theorem toLower_eq_kelvin_iff (c : Char) : c.toLower = '\u212A' ↔ c = '\u212A' := by
  constructor
  · intro h
    by_cases hle : 0x80 ≤ c.toNat
    · rwa [toLower_of_le hle] at h
    · have hascii : ∀ n < 0x80, (Char.ofNat n).toLower ≠ '\u212A' := by decide +kernel
      exact absurd (c.ofNat_toNat.symm ▸ h) (hascii c.toNat (Nat.lt_of_not_le hle))
  · rintro rfl
    rfl

theorem foldCase_eq_of_toLower_eq {c d : Char} (h : c.toLower = d.toLower) :
    foldCase c = foldCase d := by
  have hkelvin : c = '\u212A' ↔ d = '\u212A' := by
    rw [← toLower_eq_kelvin_iff, h, toLower_eq_kelvin_iff]
  simp only [foldCase, hkelvin, h]

theorem map_foldCase_eq_of_map_toLower_eq {first second : List Char}
    (h : first.map Char.toLower = second.map Char.toLower) :
    first.map foldCase = second.map foldCase := by
  induction first generalizing second with
  | nil => rw [List.map_eq_nil_iff.mp h.symm]
  | cons c rest ih =>
      obtain ⟨d, others, rfl, hlower, hrest⟩ := List.map_eq_cons_iff.mp h.symm
      rw [List.map_cons, List.map_cons, foldCase_eq_of_toLower_eq hlower.symm, ih hrest.symm]

theorem kelvin_or_le_of_mem_lowercaseRuns : ∀ run ∈ CaseTable.lowercaseRuns,
    (run.1 = 0x212A ∧ run.2.1 = 0x212A) ∨ (0x80 : ℤ) ≤ run.1 + run.2.2.2 := by
  decide +kernel

theorem isLower_ofNat_of_le {n : ℕ} (h : 0x80 ≤ n) : (Char.ofNat n).isLower = false := by
  by_cases hvalid : n.isValidChar
  · apply isLower_eq_false_of_le
    rw [Char.ofNat, dif_pos hvalid]
    exact h
  · rw [Char.ofNat, dif_neg hvalid]
    rfl

theorem exists_lowerChar {c : Char} (hdotted : c ≠ '\u0130') :
    ∃ d, lowerChar c = [d] ∧ SameLetter d (foldCase c) := by
  by_cases hkelvin : c = '\u212A'
  · subst hkelvin
    exact ⟨'k', by decide +kernel, fun _ _ => Iff.rfl⟩
  by_cases hascii : c.toNat < 0x80
  · refine ⟨c.toLower, by rw [lowerChar, if_pos hascii], ?_⟩
    rw [foldCase, if_neg hkelvin]
    exact fun _ _ => Iff.rfl
  have hle : 0x80 ≤ c.toNat := Nat.le_of_not_lt hascii
  rw [lowerChar, if_neg hascii, if_neg hdotted, foldCase_of_le hle hkelvin]
  split
  case h_1 run hrun =>
    refine ⟨_, rfl, sameLetter_of_not_lower (isLower_ofNat_of_le ?_) (isLower_eq_false_of_le hle)⟩
    have hinside := List.find?_some hrun
    simp only [Bool.and_eq_true, decide_eq_true_eq] at hinside
    rcases kelvin_or_le_of_mem_lowercaseRuns run (List.mem_of_find?_eq_some hrun) with
      ⟨hfirst, hlast⟩ | hpast
    · have hcode : c.toNat = 0x212A := by omega
      exact absurd (Char.toNat_inj.mp hcode) hkelvin
    · omega
  case h_2 =>
    exact ⟨c, rfl, fun _ _ => Iff.rfl⟩

theorem exists_lowercaseAfter_cons (before rest : List Char) {c : Char} (hdotted : c ≠ '\u0130') :
    ∃ d, lowercaseAfter before (c :: rest) = d :: lowercaseAfter (c :: before) rest ∧
      SameLetter d (foldCase c) := by
  by_cases hsigma : c = '\u03A3'
  · subst hsigma
    rw [lowercaseAfter]
    refine ⟨_, rfl, sameLetter_of_not_lower ?_ (by decide)⟩
    split <;> decide
  · obtain ⟨d, hd, hsame⟩ := exists_lowerChar hdotted
    refine ⟨d, ?_, hsame⟩
    rw [lowercaseAfter, if_neg hsigma, hd]
    rfl

theorem lowercaseAfter_dotted (before rest : List Char) :
    lowercaseAfter before ('\u0130' :: rest) =
      'i' :: '\u0307' :: lowercaseAfter ('\u0130' :: before) rest := by
  have hlower : lowerChar '\u0130' = ['i', '\u0307'] := by decide +kernel
  rw [lowercaseAfter, if_neg (by decide), hlower]
  rfl

/-- A word that is found wherever its letters are: of lowercase letters from a to z, and without an
`i` at its end, where a dotted capital I would end it too. -/
structure IsMarker (word : List Char) : Prop where
  lower : ∀ letter ∈ word, letter.isLower = true
  last : word.getLast? ≠ some 'i'

theorem IsMarker.tail {letter : Char} {word : List Char} (h : IsMarker (letter :: word)) :
    IsMarker word := by
  refine ⟨fun other hother => h.lower other (List.mem_cons_of_mem _ hother), fun hlast => ?_⟩
  apply h.last
  rw [List.getLast?_cons, hlast]
  rfl

theorem prefix_lowercaseAfter_iff {word : List Char} (h : IsMarker word) (before cs : List Char) :
    word <+: lowercaseAfter before cs ↔ word <+: cs.map foldCase := by
  induction cs generalizing word before with
  | nil => rfl
  | cons c rest ih =>
      cases word with
      | nil => simp
      | cons letter word =>
          have hletter := h.lower letter List.mem_cons_self
          rw [List.map_cons, List.cons_prefix_cons]
          by_cases hdotted : c = '\u0130'
          · subst hdotted
            rw [lowercaseAfter_dotted, List.cons_prefix_cons]
            constructor
            · rintro ⟨rfl, hword⟩
              cases word with
              | nil => exact absurd rfl h.last
              | cons next word =>
                  obtain ⟨rfl, -⟩ := List.cons_prefix_cons.mp hword
                  exact absurd (h.tail.lower _ List.mem_cons_self) (by decide)
            · rintro ⟨rfl, -⟩
              exact absurd hletter (by decide)
          · obtain ⟨d, hd, hsame⟩ := exists_lowercaseAfter_cons before rest hdotted
            rw [hd, List.cons_prefix_cons, hsame letter hletter, ih h.tail]

theorem infix_lowercaseAfter_iff {word : List Char} (h : IsMarker word) (before cs : List Char) :
    word <:+: lowercaseAfter before cs ↔ word <:+: cs.map foldCase := by
  induction cs generalizing before with
  | nil => rfl
  | cons c rest ih =>
      have hprefix := prefix_lowercaseAfter_iff h before (c :: rest)
      rw [List.map_cons] at hprefix ⊢
      rw [List.infix_cons_iff, ← hprefix, ← ih (c :: before)]
      by_cases hdotted : c = '\u0130'
      · subst hdotted
        rw [lowercaseAfter_dotted, List.infix_cons_iff, List.infix_cons_iff]
        -- The dot that stays of the capital letter begins no word.
        have hdot : word <+: '\u0307' :: lowercaseAfter ('\u0130' :: before) rest →
            word <:+: lowercaseAfter ('\u0130' :: before) rest := by
          intro hword
          cases word with
          | nil => exact List.nil_infix
          | cons letter word =>
              obtain ⟨rfl, -⟩ := List.cons_prefix_cons.mp hword
              exact absurd (h.lower _ List.mem_cons_self) (by decide)
        tauto
      · obtain ⟨d, hd, -⟩ := exists_lowercaseAfter_cons before rest hdotted
        rw [hd, List.infix_cons_iff]

end Text

namespace Snippet

open Text

/-- A run of the text spells the word, without regard to the case of the letters from A to Z and
with the Kelvin sign for `k`. -/
def Spells (text word : String) : Prop :=
  ∃ before run after, text.toList = before ++ run ++ after ∧ run.map foldCase = word.toList

theorem spells_iff_isInfix (text word : String) :
    Spells text word ↔ word.toList <:+: text.toList.map foldCase := by
  rw [List.infix_map_iff]
  constructor
  · rintro ⟨before, run, after, htext, hrun⟩
    exact ⟨run, ⟨before, after, htext.symm⟩, hrun.symm⟩
  · rintro ⟨run, ⟨before, after, htext⟩, hrun⟩
    exact ⟨before, run, after, htext.symm, hrun.symm⟩

theorem occursIn_lowercase_iff {word : String} (h : IsMarker word.toList) (text : String) :
    occursIn word (lowercase text) = true ↔ Spells text word := by
  rw [occursIn, hasRun_iff_isInfix, lowercase, String.toList_ofList, infix_lowercaseAfter_iff h,
    spells_iff_isInfix]

theorem isMarker_of_mem_failureMarkers {word : String} (h : word ∈ failureMarkers) :
    IsMarker word.toList := by
  have hall : ∀ word ∈ failureMarkers, word.toList.all Char.isLower = true ∧
      word.toList.getLast? ≠ some 'i' := by
    decide +kernel
  obtain ⟨hlower, hlast⟩ := hall word h
  exact ⟨List.all_eq_true.mp hlower, hlast⟩

theorem indicatesFailure_iff (output : String) :
    indicatesFailure output = true ↔ ∃ word ∈ failureMarkers, Spells output word := by
  rw [indicatesFailure, List.any_eq_true]
  refine exists_congr fun word => and_congr_right fun hword => ?_
  exact occursIn_lowercase_iff (isMarker_of_mem_failureMarkers hword) output

theorem Spells.append {text word : String} (h : Spells text word) (before after : String) :
    Spells (before ++ text ++ after) word := by
  obtain ⟨first, run, last, htext, hrun⟩ := h
  refine ⟨before.toList ++ first, run, last ++ after.toList, ?_, hrun⟩
  simp [htext]

theorem spells_congr {text other : String}
    (h : text.toList.map Char.toLower = other.toList.map Char.toLower) (word : String) :
    Spells text word ↔ Spells other word := by
  rw [spells_iff_isInfix, spells_iff_isInfix, map_foldCase_eq_of_map_toLower_eq h]

/-- Output speaks of a failure exactly if a run of it spells one of three words, whatever stands
before and after it.  So more text around it hides nothing, and the case of the letters from A to Z
does not matter. -/
theorem indicatesFailure_iff_spells (output : String) :
    (indicatesFailure output = true ↔
      Spells output "error" ∨ Spells output "exception" ∨ Spells output "traceback") ∧
    (∀ before after, indicatesFailure output = true →
      indicatesFailure (before ++ output ++ after) = true) ∧
    ∀ other : String, other.toList.map Char.toLower = output.toList.map Char.toLower →
      indicatesFailure other = indicatesFailure output := by
  refine ⟨?_, fun before after h => ?_, fun other h => ?_⟩
  · simp only [indicatesFailure_iff, failureMarkers, List.mem_cons, List.not_mem_nil, or_false,
      exists_eq_or_imp, exists_eq_left]
  · obtain ⟨word, hword, hspells⟩ := (indicatesFailure_iff output).mp h
    exact (indicatesFailure_iff _).mpr ⟨word, hword, hspells.append before after⟩
  · rw [Bool.eq_iff_iff, indicatesFailure_iff, indicatesFailure_iff]
    simp only [spells_congr h]

/-- The word is found in large letters, with a Kelvin sign at its end and after a capital sigma,
which would be another letter at the end of a word. -/
theorem indicatesFailure_of_kelvin_sign :
    Spells "ΣTracebac\u212A" "traceback" ∧
      indicatesFailure ("x" ++ "ΣTracebac\u212A" ++ ": İ") = true ∧
      indicatesFailure "ΣTRACEBAC\u212A" = true := by
  have hspells : Spells "ΣTracebac\u212A" "traceback" :=
    ⟨['Σ'], "Tracebac\u212A".toList, [], by decide +kernel, by decide +kernel⟩
  obtain ⟨hiff, haround, hcase⟩ := indicatesFailure_iff_spells "ΣTracebac\u212A"
  have hfound := hiff.mpr (.inr (.inr hspells))
  refine ⟨hspells, haround "x" ": İ" hfound, ?_⟩
  rw [hcase "ΣTRACEBAC\u212A" (by decide +kernel)]
  exact hfound

/-- The dot that a dotted capital I leaves behind stands inside the word. -/
example : indicatesFailure "except\u0130on" = false := by decide +kernel

end Snippet

end NotebookCheck

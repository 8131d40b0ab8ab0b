import Mathlib.Data.List.TakeWhile
import Mathlib.Order.Nat
import NotebookCheck.Toml.Reader

/-!
Quoted texts are read as they were written, in each of the forms that the writer chooses from.  In
threefold quotes the end of a text is found by the length of a run of quotes, so what matters there
is that no such run in the written text is longer than two.
-/

namespace NotebookCheck.Toml

open Number

theorem hexValue?_digitChar_toUpper : ∀ n < 16, hexValue? (Nat.digitChar n).toUpper = some n := by
  decide

theorem isControl_lt {c : Char} (h : isControl c) : c.toNat < 0x80 := by
  simp only [isControl, Bool.or_eq_true, Bool.and_eq_true, decide_eq_true_eq] at h
  omega

theorem codeDigits_eq {c : Char} (h : c.toNat < 0x100) :
    codeDigits c =
      [(Nat.digitChar (c.toNat / 16)).toUpper, (Nat.digitChar (c.toNat % 16)).toUpper] := by
  rw [codeDigits, Nat.toDigits_of_lt_base (by omega), Nat.toDigits_of_lt_base (by omega)]
  rfl

theorem readCode_four (c : Char) (h : c.toNat < 0x100) (more : List Char) :
    readCode 4 0 ('0' :: '0' :: codeDigits c ++ more) = some (c, more) := by
  have hvalid : c.toNat.isValidChar := c.valid
  have hzero : hexValue? '0' = some 0 := by decide
  have hvalue : (c.toNat / 16) * 16 + c.toNat % 16 = c.toNat := by omega
  rw [codeDigits_eq h]
  simp [readCode, hzero, hexValue?_digitChar_toUpper (c.toNat / 16) (by omega),
    hexValue?_digitChar_toUpper (c.toNat % 16) (by omega), hvalue, hvalid]

/-- A letter and a code that are read as a character after a backslash, where they cannot be
taken for the end of a line. -/
structure IsEscape (letter : Char) (code : List Char) (c : Char) : Prop where
  not_gap : isGap letter = false
  not_newline : letter ≠ '\n'
  not_return : letter ≠ '\r'
  read : ∀ more, readEscape (letter :: (code ++ more)) = some (c, more)

theorem escapeChar_cases (c : Char) :
    (escapeChar c = [c] ∧ isPlain c ∧ c ≠ '"' ∧ c ≠ '\\') ∨
      ∃ letter code, escapeChar c = '\\' :: letter :: code ∧ IsEscape letter code c := by
  unfold escapeChar
  split
  case h_8 _ hnewline _ _ hquote hbackslash =>
    split
    case isTrue hc =>
      right
      have hsmall : c.toNat < 0x100 := lt_trans (isControl_lt hc) (by decide)
      exact ⟨'u', '0' :: '0' :: codeDigits c, rfl, by decide, by decide, by decide,
        readCode_four c hsmall⟩
    case isFalse hc =>
      left
      exact ⟨rfl, by simpa [isPlain, hc] using hnewline, hquote, hbackslash⟩
  all_goals
    right
    exact ⟨_, [], rfl, by decide, by decide, by decide, fun more => rfl⟩

theorem escape_cons (c : Char) (cs : List Char) : escape (c :: cs) = escapeChar c ++ escape cs :=
  rfl

theorem readBasic_escape {cs rest : List Char} {fuel : ℕ} (h : cs.length < fuel) :
    readBasic fuel (escape cs ++ '"' :: rest) = some (cs, rest) := by
  induction cs generalizing fuel with
  | nil =>
      obtain ⟨fuel, rfl⟩ := Nat.exists_eq_add_one_of_ne_zero (Nat.ne_zero_of_lt h)
      rfl
  | cons c cs ih =>
      obtain ⟨fuel, rfl⟩ := Nat.exists_eq_add_one_of_ne_zero (Nat.ne_zero_of_lt h)
      have hih : readBasic fuel (escape cs ++ '"' :: rest) = some (cs, rest) :=
        ih (by simpa using h)
      rw [escape_cons]
      rcases escapeChar_cases c with ⟨hc, hplain, hquote, hback⟩ | ⟨letter, code, hc, hescape⟩
      · simp [hc, readBasic, hquote, hback, hplain, hih]
      · simp [hc, readBasic, hescape.read, hih]

theorem readLiteral_append {cs rest : List Char} (h : ∀ c ∈ cs, isPlain c ∧ c ≠ '\'') :
    readLiteral (cs ++ '\'' :: rest) = some (cs, rest) := by
  induction cs with
  | nil => rfl
  | cons c cs ih =>
      obtain ⟨⟨hplain, hquote⟩, hcs⟩ := List.forall_mem_cons.mp h
      simp [readLiteral, hplain, hquote, ih hcs]

theorem readQuoted_eq_readOneLine {quote : Char} {body rest : List Char}
    (hbody : body.head? ≠ some quote) (hrest : rest.head? ≠ some quote) :
    readQuoted quote (body ++ quote :: rest) =
      readQuoted.readOneLine quote (body ++ quote :: rest) := by
  have hsingle : [quote, quote].isPrefixOf (body ++ quote :: rest) = false := by
    rcases body with _ | ⟨c, body⟩
    · rcases rest with _ | ⟨d, rest⟩
      · simp
      · have hd : quote ≠ d := fun h => hrest (by simp [h])
        simp [List.isPrefixOf, hd]
    · have hc : quote ≠ c := fun h => hbody (by simp [h])
      simp [List.isPrefixOf, hc]
  simp [readQuoted, hsingle]

theorem length_le_length_escape (cs : List Char) : cs.length ≤ (escape cs).length := by
  induction cs with
  | nil => simp
  | cons c cs ih =>
      rw [escape_cons]
      rcases escapeChar_cases c with ⟨hc, -⟩ | ⟨letter, code, hc, -⟩ <;> simp [hc] <;> omega

theorem head?_escape_ne_quote (cs : List Char) : (escape cs).head? ≠ some '"' := by
  rcases cs with _ | ⟨c, cs⟩
  · simp [escape]
  · rw [escape_cons]
    rcases escapeChar_cases c with ⟨hc, -, hquote, -⟩ | ⟨letter, code, hc, -⟩
    · simpa [hc] using hquote
    · simp [hc]

theorem readQuoted_basic {cs rest : List Char} (hrest : rest.head? ≠ some '"') :
    readQuoted '"' (escape cs ++ '"' :: rest) = some (cs, rest) := by
  have hlength : cs.length ≤ (escape cs).length := length_le_length_escape cs
  rw [readQuoted_eq_readOneLine (head?_escape_ne_quote cs) hrest, readQuoted.readOneLine,
    if_pos rfl]
  exact readBasic_escape (by simp; omega)

theorem readQuoted_literal {cs rest : List Char} (h : ∀ c ∈ cs, isPlain c ∧ c ≠ '\'')
    (hrest : rest.head? ≠ some '\'') :
    readQuoted '\'' (cs ++ '\'' :: rest) = some (cs, rest) := by
  have hhead : cs.head? ≠ some '\'' := fun hc => (h _ (List.mem_of_mem_head? hc)).2 rfl
  rw [readQuoted_eq_readOneLine hhead hrest, readQuoted.readOneLine, if_neg (by decide)]
  exact readLiteral_append h

section Threefold

variable {quote : Char} {cs written rest : List Char}

theorem threefoldEnd?_of_all (hall : ∀ c ∈ written, c = quote)
    (hrun : (written.takeWhile (· = quote)).length ≤ 2) (hrest : rest.head? ≠ some quote) :
    threefoldEnd? quote (written ++ quote :: quote :: quote :: rest) = some (written, rest) := by
  have hstop : rest.takeWhile (· = quote) = [] := by
    rcases rest with _ | ⟨d, rest⟩
    · rfl
    · have hd : d ≠ quote := fun h => hrest (by simp [h])
      simp [hd]
  have hall' : ∀ c ∈ written, decide (c = quote) = true := by simpa using hall
  rw [List.takeWhile_eq_self_iff.mpr hall'] at hrun
  have hlength : ((written ++ quote :: quote :: quote :: rest).takeWhile (· = quote)).length =
      written.length + 3 := by
    rw [List.takeWhile_append_of_pos hall']
    simp [hstop]
  rw [threefoldEnd?, hlength]
  match written, hall, hrun with
  | [], _, _ => simp
  | [a], hall, _ => simp at hall; simp [hall]
  | [a, b], hall, _ => simp at hall; simp [hall]

theorem threefoldEnd?_of_not_all (hall : ¬ ∀ c ∈ written, c = quote)
    (hrun : (written.takeWhile (· = quote)).length ≤ 2) :
    threefoldEnd? quote (written ++ rest) = none := by
  have hpart : (written.takeWhile (· = quote)).length ≠ written.length := by
    intro hlength
    apply hall
    have hwhole := (List.takeWhile_prefix (· = quote)).eq_of_length hlength
    simpa using List.takeWhile_eq_self_iff.mp hwhole
  rw [threefoldEnd?, List.takeWhile_append, if_neg hpart]
  obtain h | h | h : (written.takeWhile (· = quote)).length = 0 ∨
      (written.takeWhile (· = quote)).length = 1 ∨
      (written.takeWhile (· = quote)).length = 2 := by omega
  all_goals simp only [h]

theorem readThreefold_end {fuel : ℕ} {text : List Char × List Char}
    (h : threefoldEnd? quote cs = some text) :
    readThreefold quote (fuel + 1) cs = some text := by
  simp [readThreefold, h]

theorem readThreefold_plain {fuel : ℕ} {c : Char} {text : List Char}
    (hend : threefoldEnd? quote (c :: written) = none) (hescape : quote = '"' → c ≠ '\\')
    (hc : isControl c = false) (h : readThreefold quote fuel written = some (text, rest)) :
    readThreefold quote (fuel + 1) (c :: written) = some (c :: text, rest) := by
  have hreturn : c ≠ '\r' := by rintro rfl; exact absurd hc (by decide)
  have hno : (quote = '"' && c = '\\') = false := by simpa using hescape
  simp [readThreefold, hend, hno, hreturn, hc, h]

theorem readThreefold_escaped {fuel : ℕ} {c letter : Char} {code text : List Char}
    (hend : threefoldEnd? '"' ('\\' :: letter :: (code ++ written)) = none)
    (hescape : IsEscape letter code c)
    (h : readThreefold '"' fuel written = some (text, rest)) :
    readThreefold '"' (fuel + 1) ('\\' :: letter :: (code ++ written)) =
      some (c :: text, rest) := by
  have hjoin : joinedLine? (letter :: (code ++ written)) = none := by
    simp [joinedLine?, skipGap, lineEnd?, hescape.not_gap, hescape.not_newline,
      hescape.not_return]
  simp [readThreefold, hend, hjoin, hescape.read, h]

end Threefold

/-- The length of the run that a list has reached and of its longest run, after one more
character. -/
def runStep (quote : Char) (lengths : ℕ × ℕ) (c : Char) : ℕ × ℕ :=
  if c = quote then (lengths.1 + 1, max lengths.2 (lengths.1 + 1)) else (0, lengths.2)

theorem longestRun_eq (quote : Char) (cs : List Char) :
    longestRun quote cs = (cs.foldl (runStep quote) (0, 0)).2 := rfl

theorem foldl_runStep_mono (quote : Char) (cs : List Char) {a b : ℕ × ℕ} (h : a ≤ b) :
    cs.foldl (runStep quote) a ≤ cs.foldl (runStep quote) b := by
  induction cs generalizing a b with
  | nil => exact h
  | cons c cs ih =>
      apply ih
      obtain ⟨hnow, hmost⟩ := h
      unfold runStep
      split <;> constructor <;> simp <;> omega

theorem add_length_takeWhile_le (quote : Char) (cs : List Char) (a : ℕ × ℕ) :
    a.2 ≤ (cs.foldl (runStep quote) a).2 ∧
      a.1 + (cs.takeWhile (· = quote)).length ≤ max a.1 (cs.foldl (runStep quote) a).2 := by
  induction cs generalizing a with
  | nil => exact ⟨le_rfl, le_max_left _ _⟩
  | cons c cs ih =>
      have hih := ih (runStep quote a c)
      by_cases hc : c = quote
      · have hstep : runStep quote a c = (a.1 + 1, max a.2 (a.1 + 1)) := if_pos hc
        rw [List.takeWhile_cons_of_pos (by simpa using hc)]
        rw [hstep] at hih
        simp only [List.foldl_cons, List.length_cons, hstep]
        omega
      · have hstep : runStep quote a c = (0, a.2) := if_neg hc
        rw [List.takeWhile_cons_of_neg (by simpa using hc)]
        rw [hstep] at hih
        simp only [List.foldl_cons, List.length_nil, hstep]
        omega

theorem length_takeWhile_le_longestRun (quote : Char) (cs : List Char) :
    (cs.takeWhile (· = quote)).length ≤ longestRun quote cs := by
  have h := (add_length_takeWhile_le quote cs (0, 0)).2
  rw [longestRun_eq]
  omega

theorem longestRun_le_cons (quote c : Char) (cs : List Char) :
    longestRun quote cs ≤ longestRun quote (c :: cs) :=
  (foldl_runStep_mono quote cs (Prod.mk_le_mk.mpr ⟨Nat.zero_le _, Nat.zero_le _⟩)).2

theorem readThreefold_literal {cs rest : List Char} {fuel : ℕ}
    (hcontrol : ∀ c ∈ cs, isControl c = false) (hrun : longestRun '\'' cs ≤ 2)
    (hrest : rest.head? ≠ some '\'') (hfuel : cs.length < fuel) :
    readThreefold '\'' fuel (cs ++ '\'' :: '\'' :: '\'' :: rest) = some (cs, rest) := by
  induction cs generalizing fuel with
  | nil =>
      obtain ⟨fuel, rfl⟩ := Nat.exists_eq_add_one_of_ne_zero (Nat.ne_zero_of_lt hfuel)
      exact readThreefold_end (threefoldEnd?_of_all (by simp) (by simp) hrest)
  | cons c cs ih =>
      obtain ⟨fuel, rfl⟩ := Nat.exists_eq_add_one_of_ne_zero (Nat.ne_zero_of_lt hfuel)
      have hhead := (length_takeWhile_le_longestRun '\'' (c :: cs)).trans hrun
      -- Quotes at the end of the text run into the closing ones and are found together with them.
      by_cases hall : ∀ d ∈ c :: cs, d = '\''
      · exact readThreefold_end (threefoldEnd?_of_all hall hhead hrest)
      · obtain ⟨hc, hcs⟩ := List.forall_mem_cons.mp hcontrol
        have hih : readThreefold '\'' fuel (cs ++ '\'' :: '\'' :: '\'' :: rest) = some (cs, rest) :=
          ih hcs ((longestRun_le_cons '\'' c cs).trans hrun) (by simpa using hfuel)
        exact readThreefold_plain (threefoldEnd?_of_not_all hall hhead) (by simp) hc hih

theorem escapeLines_cases (quotes : ℕ) (c : Char) (cs : List Char) :
    (c = '"' ∧ quotes ≠ 2 ∧
        escapeLines quotes (c :: cs) = '"' :: escapeLines (quotes + 1) cs) ∨
      (c ≠ '"' ∧ c ≠ '\\' ∧ isControl c = false ∧
        escapeLines quotes (c :: cs) = c :: escapeLines 0 cs) ∨
      ∃ letter code, escapeLines quotes (c :: cs) =
        '\\' :: letter :: (code ++ escapeLines 0 cs) ∧ IsEscape letter code c := by
  by_cases hquote : c = '"'
  · subst hquote
    by_cases hthird : quotes = 2
    · right; right
      exact ⟨'"', [], by simp [escapeLines, hthird], by decide, by decide, by decide,
        fun more => rfl⟩
    · exact .inl ⟨rfl, hthird, by simp [escapeLines, hthird]⟩
  · right
    by_cases hnewline : c = '\n'
    · subst hnewline
      exact .inl ⟨hquote, by decide, by decide, by simp [escapeLines]⟩
    · rcases escapeChar_cases c with ⟨hc, hplain, -, hback⟩ | ⟨letter, code, hc, hescape⟩
      · left
        refine ⟨hquote, hback, ?_, by simp [escapeLines, hquote, hnewline, hc]⟩
        simp only [isPlain, Bool.and_eq_true, Bool.not_eq_true'] at hplain
        exact hplain.1
      · right
        exact ⟨letter, code, by simp [escapeLines, hquote, hnewline, hc], hescape⟩

theorem length_takeWhile_escapeLines (cs : List Char) {quotes : ℕ} (h : quotes ≤ 2) :
    ((escapeLines quotes cs).takeWhile (· = '"')).length + quotes ≤ 2 := by
  induction cs generalizing quotes with
  | nil => simpa [escapeLines] using h
  | cons c cs ih =>
      obtain ⟨rfl, hthird, hw⟩ | ⟨hquote, -, -, hw⟩ | ⟨letter, code, hw, -⟩ :=
        escapeLines_cases quotes c cs
      · have hih : ((escapeLines (quotes + 1) cs).takeWhile (· = '"')).length + (quotes + 1) ≤ 2 :=
          ih (by omega)
        simp [hw]
        omega
      · simpa [hw, hquote] using h
      · simpa [hw] using h

theorem escapeLines_of_all (cs : List Char) {quotes : ℕ}
    (h : ∀ c ∈ escapeLines quotes cs, c = '"') : escapeLines quotes cs = cs := by
  induction cs generalizing quotes with
  | nil => rfl
  | cons c cs ih =>
      -- An escaped quote brings a backslash along, so that no quote of the text was escaped.
      obtain ⟨rfl, -, hw⟩ | ⟨hquote, -, -, hw⟩ | ⟨letter, code, hw, -⟩ :=
        escapeLines_cases quotes c cs
      · rw [hw] at h ⊢
        rw [ih (List.forall_mem_cons.mp h).2]
      · rw [hw] at h
        exact absurd (List.forall_mem_cons.mp h).1 hquote
      · rw [hw] at h
        exact absurd (List.forall_mem_cons.mp h).1 (by decide)

theorem readThreefold_escapeLines {cs rest : List Char} {quotes fuel : ℕ} (h : quotes ≤ 2)
    (hrest : rest.head? ≠ some '"') (hfuel : (escapeLines quotes cs).length < fuel) :
    readThreefold '"' fuel (escapeLines quotes cs ++ '"' :: '"' :: '"' :: rest) =
      some (cs, rest) := by
  induction cs generalizing quotes fuel with
  | nil =>
      obtain ⟨fuel, rfl⟩ := Nat.exists_eq_add_one_of_ne_zero (Nat.ne_zero_of_lt hfuel)
      exact readThreefold_end (threefoldEnd?_of_all (by simp [escapeLines])
        (by simp [escapeLines]) hrest)
  | cons c cs ih =>
      obtain ⟨fuel, rfl⟩ := Nat.exists_eq_add_one_of_ne_zero (Nat.ne_zero_of_lt hfuel)
      have hhead := length_takeWhile_escapeLines (c :: cs) h
      by_cases hall : ∀ d ∈ escapeLines quotes (c :: cs), d = '"'
      · have hsame := escapeLines_of_all (c :: cs) hall
        rw [hsame] at hall hhead ⊢
        exact readThreefold_end (threefoldEnd?_of_all hall (by omega) hrest)
      · have hend : threefoldEnd? '"'
            (escapeLines quotes (c :: cs) ++ '"' :: '"' :: '"' :: rest) = none :=
          threefoldEnd?_of_not_all hall (by omega)
        obtain ⟨rfl, hthird, hw⟩ | ⟨-, hback, hc, hw⟩ | ⟨letter, code, hw, hescape⟩ :=
          escapeLines_cases quotes c cs
        · rw [hw] at hend hfuel ⊢
          exact readThreefold_plain hend (by decide) (by decide)
            (ih (by omega) (by simpa using hfuel))
        · rw [hw] at hend hfuel ⊢
          exact readThreefold_plain hend (fun _ => hback) hc
            (ih (by omega) (by simpa using hfuel))
        · rw [hw] at hend hfuel ⊢
          simp only [List.cons_append, List.append_assoc] at hend ⊢
          exact readThreefold_escaped hend hescape (ih (by omega) (by simp at hfuel; omega))

theorem dropFirstLineEnd_append {cs body : List Char}
    (h : cs.any (· = '\n') = false → lineEnd? body = none) :
    dropFirstLineEnd (firstLineEnd cs ++ body) = body := by
  by_cases hcs : cs.any (· = '\n')
  · simp [firstLineEnd, hcs, dropFirstLineEnd, lineEnd?]
  · simp only [Bool.not_eq_true] at hcs
    simp [firstLineEnd, hcs, dropFirstLineEnd, h hcs]

theorem readQuoted_threefold {quote : Char} {cs body rest : List Char}
    (h : cs.any (· = '\n') = false → lineEnd? (body ++ quote :: quote :: quote :: rest) = none)
    {text : List Char}
    (hread : ∀ fuel, body.length < fuel →
      readThreefold quote fuel (body ++ quote :: quote :: quote :: rest) = some (text, rest)) :
    readQuoted quote
        (quote :: quote :: (firstLineEnd cs ++ (body ++ quote :: quote :: quote :: rest))) =
      some (text, rest) := by
  have hthree : [quote, quote].isPrefixOf
      (quote :: quote :: (firstLineEnd cs ++ (body ++ quote :: quote :: quote :: rest))) := by
    simp [List.isPrefixOf]
  rw [readQuoted, if_pos hthree, List.drop_succ_cons, List.drop_succ_cons, List.drop_zero,
    dropFirstLineEnd_append h]
  apply hread
  simp only [List.length_append]
  omega

theorem lineEnd?_cons {c : Char} {cs : List Char} (hc : isControl c = false)
    (hnewline : c ≠ '\n') : lineEnd? (c :: cs) = none := by
  have hreturn : c ≠ '\r' := by rintro rfl; exact absurd hc (by decide)
  simp [lineEnd?, hnewline, hreturn]

theorem ne_newline_of_any {c : Char} {cs : List Char}
    (h : (c :: cs).any (· = '\n') = false) : c ≠ '\n' := by
  rintro rfl
  exact absurd h (by simp)

namespace QuoteForm

def Holds : QuoteForm → List Char → Prop
  | basic, _ => True
  | literal, cs => ∀ c ∈ cs, isPlain c ∧ c ≠ '\''
  | basicLines, _ => True
  | literalLines, cs => (∀ c ∈ cs, isControl c = false) ∧ longestRun '\'' cs ≤ 2

theorem holds_of (cs : List Char) : (of cs).Holds cs := by
  simp only [of]
  split_ifs with _ _ hliteral _ hverbatim _
  · trivial
  · trivial
  · intro c hc
    simp only [Bool.and_eq_true, Bool.not_eq_true', List.any_eq_false, decide_eq_true_eq,
      Bool.not_eq_true] at hliteral
    obtain ⟨⟨hcontrol, hnewline⟩, hquote⟩ := hliteral
    exact ⟨by simp [isPlain, hcontrol c hc, hnewline c hc], hquote c hc⟩
  · trivial
  · simp only [Bool.and_eq_true, Bool.not_eq_true', List.any_eq_false, decide_eq_true_eq,
      Bool.not_eq_true] at hverbatim
    exact hverbatim
  · trivial
  · trivial

variable {cs rest : List Char}

theorem readQuoted_basicLines (hrest : rest.head? ≠ some '"') :
    readQuoted '"' ('"' :: '"' ::
      (firstLineEnd cs ++ (escapeLines 0 cs ++ '"' :: '"' :: '"' :: rest))) = some (cs, rest) := by
  apply readQuoted_threefold
  · intro hnewline
    rcases cs with _ | ⟨c, cs⟩
    · exact lineEnd?_cons (by decide) (by decide)
    · obtain ⟨rfl, -, hw⟩ | ⟨-, -, hc, hw⟩ | ⟨letter, code, hw, -⟩ := escapeLines_cases 0 c cs
      · rw [hw]
        exact lineEnd?_cons (by decide) (by decide)
      · rw [hw]
        exact lineEnd?_cons hc (ne_newline_of_any hnewline)
      · rw [hw]
        exact lineEnd?_cons (by decide) (by decide)
  · intro fuel hfuel
    exact readThreefold_escapeLines (by omega) hrest hfuel

theorem readQuoted_literalLines (h : literalLines.Holds cs) (hrest : rest.head? ≠ some '\'') :
    readQuoted '\'' ('\'' :: '\'' ::
      (firstLineEnd cs ++ (cs ++ '\'' :: '\'' :: '\'' :: rest))) = some (cs, rest) := by
  apply readQuoted_threefold
  · intro hnewline
    rcases cs with _ | ⟨c, cs⟩
    · exact lineEnd?_cons (by decide) (by decide)
    · exact lineEnd?_cons (h.1 c (by simp)) (ne_newline_of_any hnewline)
  · intro fuel hfuel
    exact readThreefold_literal h.1 h.2 hrest hfuel

end QuoteForm

theorem readValue_writeText (s : String) {rest : List Char} (hbasic : rest.head? ≠ some '"')
    (hliteral : rest.head? ≠ some '\'') (fuel depth : ℕ) :
    readValue (fuel + 1) depth (writeText s ++ rest) = some (.text s, rest) := by
  have h := QuoteForm.holds_of s.toList
  rw [writeText]
  generalize hform : QuoteForm.of s.toList = form at h
  cases form with
  | basic =>
      simp [QuoteForm.write, readValue, readQuoted_basic hbasic]
  | literal =>
      simp [QuoteForm.write, readValue, readQuoted_literal h hliteral]
  | basicLines =>
      simp [QuoteForm.write, readValue, QuoteForm.readQuoted_basicLines hbasic]
  | literalLines =>
      simp [QuoteForm.write, readValue, QuoteForm.readQuoted_literalLines h hliteral]

example : String.ofList (writeText "isn't\"\n") = "\"\"\"\nisn't\"\n\"\"\"" := by decide

theorem skipGap_writeText (s : String) (rest : List Char) :
    skipGap (writeText s ++ rest) = writeText s ++ rest := by
  rw [writeText]
  cases QuoteForm.of s.toList <;> rfl

end NotebookCheck.Toml

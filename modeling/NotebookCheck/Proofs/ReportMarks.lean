import NotebookCheck.CommandLine.Report
import NotebookCheck.Proofs.FailureText
import NotebookCheck.Proofs.JsonText

namespace NotebookCheck.CommandLine

open Number Text

def indentation (depth : ℕ) : List Char := List.replicate (2 * depth) ' '

/-- Two marks that a line of a report can begin with: one tells that something is as it should be,
the other one that it is not. -/
structure Marks where
  good : List Char
  bad : List Char

namespace Marks

def told? (marks : Marks) (line : List Char) : Option Bool :=
  if marks.good.isPrefixOf line then some true
  else if marks.bad.isPrefixOf line then some false
  else none

def told (marks : Marks) (text : List Char) : List Bool :=
  (splitAtChar '\n' text).filterMap marks.told?

def toldInBlock (marks : Marks) (text : List Char) : List Bool :=
  ((splitAtChar '\n' text).takeWhile (· ≠ [])).filterMap marks.told?

def field (depth : ℕ) (key : String) : Marks where
  good := indentation depth ++ '"' :: (key.toList ++ "\": true".toList)
  bad := indentation depth ++ '"' :: (key.toList ++ "\": false".toList)

end Marks

theorem toList_line (s : String) : (line s).toList = s.toList ++ ['\n'] := by
  rw [line, String.toList_append]
  rfl

section Lines

variable {marks : Marks} {lines : List (List Char)} {rest : List Char}

theorem Marks.toldInBlock_lines (h : ∀ l ∈ lines, '\n' ∉ l) (hne : ∀ l ∈ lines, l ≠ []) :
    marks.toldInBlock (lines.flatMap (· ++ ['\n']) ++ '\n' :: rest) =
      lines.filterMap marks.told? := by
  have hne' : ∀ l ∈ lines, decide (l ≠ []) = true := fun l hl => decide_eq_true (hne l hl)
  rw [toldInBlock, splitAtChar_flatMap h, splitAtChar, if_pos rfl,
    List.takeWhile_append_of_pos hne', List.takeWhile_cons_of_neg (by simp), List.append_nil]

/-- Full lines, of which a single one has a mark. -/
def Marks.TellsOnce (marks : Marks) (part : String) (flag : Bool) : Prop :=
  ∃ lines : List (List Char), part.toList = lines.flatMap (· ++ ['\n']) ∧
    (∀ l ∈ lines, '\n' ∉ l) ∧ (∀ l ∈ lines, l ≠ []) ∧ lines.filterMap marks.told? = [flag]

theorem Marks.toldInBlock_join {α : Type} (entries : List α) (part : α → String)
    (flag : α → Bool) (h : ∀ e ∈ entries, marks.TellsOnce (part e) (flag e)) (rest : List Char) :
    marks.toldInBlock ((join "" (entries.map part)).toList ++ '\n' :: rest) =
      entries.map flag := by
  have hlines : ∃ lines : List (List Char),
      (join "" (entries.map part)).toList = lines.flatMap (· ++ ['\n']) ∧
        (∀ l ∈ lines, '\n' ∉ l) ∧ (∀ l ∈ lines, l ≠ []) ∧
        lines.filterMap marks.told? = entries.map flag := by
    rw [join_empty_eq]
    induction entries with
    | nil => exact ⟨[], rfl, by simp, by simp, rfl⟩
    | cons e entries ih =>
        rw [List.forall_mem_cons] at h
        obtain ⟨first, hfirst, hbreak, hne, htold⟩ := h.1
        obtain ⟨others, hothers, hbreaks, hnes, htolds⟩ := ih h.2
        refine ⟨first ++ others, ?_, ?_, ?_, ?_⟩
        · rw [List.map_cons, String.join_cons, String.toList_append, hfirst, hothers,
            List.flatMap_append]
        · exact List.forall_mem_append.mpr ⟨hbreak, hbreaks⟩
        · exact List.forall_mem_append.mpr ⟨hne, hnes⟩
        · rw [List.filterMap_append, htold, htolds]
          rfl
  obtain ⟨lines, heq, hbreak, hne, htold⟩ := hlines
  rw [heq, toldInBlock_lines hbreak hne, htold]

end Lines

section Later

variable {marks : Marks} {front rest mark : List Char}

def Marks.toldLater (marks : Marks) (text : List Char) : List Bool :=
  (splitAtChar '\n' text).tail.filterMap marks.told?

theorem exists_splitAtChar_eq_cons (sep : Char) (cs : List Char) :
    ∃ first others, splitAtChar sep cs = first :: others := by
  rw [splitAtChar_eq_splitOn]
  exact List.exists_cons_of_ne_nil (List.splitOn_ne_nil sep cs)

theorem Marks.toldLater_newline : marks.toldLater ('\n' :: rest) = marks.told rest := by
  rw [toldLater, splitAtChar, if_pos rfl, List.tail_cons, told]

theorem Marks.toldLater_append (h : '\n' ∉ front) :
    marks.toldLater (front ++ rest) = marks.toldLater rest := by
  induction front with
  | nil => rfl
  | cons c front ih =>
      rw [List.mem_cons, not_or] at h
      obtain ⟨first, others, hsplit⟩ := exists_splitAtChar_eq_cons '\n' (front ++ rest)
      rw [← ih h.2, toldLater, toldLater, List.cons_append, splitAtChar, if_neg (Ne.symm h.1),
        hsplit]
      rfl

theorem prefix_first_line {cs first : List Char} {others : List (List Char)} (h : '\n' ∉ mark)
    (hsplit : splitAtChar '\n' cs = first :: others) : mark <+: first ↔ mark <+: cs := by
  induction cs generalizing mark first others with
  | nil =>
      cases hsplit
      exact Iff.rfl
  | cons c cs ih =>
      cases mark with
      | nil => exact iff_of_true List.nil_prefix List.nil_prefix
      | cons d mark =>
          rw [List.mem_cons, not_or] at h
          rw [splitAtChar] at hsplit
          by_cases hc : c = '\n'
          · rw [if_pos hc] at hsplit
            cases hsplit
            rw [List.prefix_nil, List.cons_prefix_cons, hc]
            exact iff_of_false (List.cons_ne_nil _ _) fun heq => h.1 heq.1.symm
          · obtain ⟨piece, pieces, hpieces⟩ := exists_splitAtChar_eq_cons '\n' cs
            rw [if_neg hc, hpieces] at hsplit
            cases hsplit
            rw [List.cons_prefix_cons, List.cons_prefix_cons, ih h.2 hpieces]

theorem Marks.told_eq (hgood : '\n' ∉ marks.good) (hbad : '\n' ∉ marks.bad) (cs : List Char) :
    marks.told cs = (marks.told? cs).toList ++ marks.toldLater cs := by
  obtain ⟨first, others, hsplit⟩ := exists_splitAtChar_eq_cons '\n' cs
  have htold : marks.told? first = marks.told? cs := by
    simp only [told?, List.isPrefixOf_iff_prefix, prefix_first_line hgood hsplit,
      prefix_first_line hbad hsplit]
  rw [told, toldLater, hsplit, List.tail_cons, ← htold]
  cases hline : marks.told? first with
  | none =>
      rw [List.filterMap_cons_none hline]
      rfl
  | some b =>
      rw [List.filterMap_cons_some hline]
      rfl

end Later

section Fields

theorem replicate_prefix_iff {a b : ℕ} {c : Char} {mark rest : List Char} (hc : c ≠ ' ') :
    List.replicate a ' ' ++ '"' :: mark <+: List.replicate b ' ' ++ c :: rest ↔
      a = b ∧ c = '"' ∧ mark <+: rest := by
  induction a generalizing b with
  | zero =>
      cases b with
      | zero => simp [List.cons_prefix_cons, eq_comm]
      | succ b => simp [List.replicate_succ, List.cons_prefix_cons]
  | succ a ih =>
      cases b with
      | zero => simp [List.replicate_succ, List.cons_prefix_cons, Ne.symm hc]
      | succ b =>
          rw [List.replicate_succ, List.replicate_succ, List.cons_append, List.cons_append,
            List.cons_prefix_cons, ih]
          simp

theorem indented_prefix_iff {own depth : ℕ} {c : Char} {mark rest : List Char} (hc : c ≠ ' ') :
    indentation own ++ '"' :: mark <+: indentation depth ++ c :: rest ↔
      own = depth ∧ c = '"' ∧ mark <+: rest := by
  rw [indentation, indentation, replicate_prefix_iff hc, Nat.mul_right_inj (by decide)]

/-- The characters of a name stand for themselves between quotes. -/
def IsPlainName (name : String) : Prop :=
  ∀ c ∈ name.toList, c ≠ '"' ∧ c ≠ '\\' ∧ 0x20 ≤ c.toNat

theorem writtenChar_of_plain {c : Char} (h : c ≠ '"' ∧ c ≠ '\\' ∧ 0x20 ≤ c.toNat) :
    Json.writtenChar c = [c] := by
  have hcontrol : ∀ other : Char, other.toNat < 0x20 → c ≠ other := by
    rintro other hother rfl
    omega
  rw [Json.writtenChar, if_neg h.1, if_neg h.2.1, if_neg (hcontrol _ (by decide)),
    if_neg (hcontrol _ (by decide)), if_neg (hcontrol _ (by decide)),
    if_neg (hcontrol _ (by decide)), if_neg (hcontrol _ (by decide)), if_neg (by omega)]

theorem written_prefix_iff {key cs mark rest : List Char}
    (hkey : ∀ c ∈ key, c ≠ '"' ∧ c ≠ '\\' ∧ 0x20 ≤ c.toNat) :
    key ++ '"' :: mark <+: cs.flatMap Json.writtenChar ++ '"' :: rest ↔
      key = cs ∧ mark <+: rest := by
  induction key generalizing cs with
  | nil =>
      cases cs with
      | nil => simp [List.cons_prefix_cons]
      | cons c cs =>
          obtain ⟨hplain, hquote, -, -⟩ | ⟨code, hcode, -⟩ := Json.writtenChar_cases c
          · simp [hplain, List.cons_prefix_cons, Ne.symm hquote]
          · simp [hcode, List.cons_prefix_cons]
  | cons k key ih =>
      obtain ⟨hk, hkey⟩ := List.forall_mem_cons.mp hkey
      cases cs with
      | nil => simp [List.cons_prefix_cons, hk.1]
      | cons c cs =>
          obtain ⟨hplain, -, -, -⟩ | ⟨code, hcode, hescape⟩ := Json.writtenChar_cases c
          · rw [List.flatMap_cons, hplain, List.append_assoc, List.singleton_append,
              List.cons_append, List.cons_prefix_cons, ih hkey, List.cons.injEq]
            tauto
          · have hne : k ≠ c := by
              rintro rfl
              rw [writtenChar_of_plain hk] at hcode
              simp [hk.2.1] at hcode
            simp [hcode, List.cons_prefix_cons, hk.2.1, hne]

end Fields

section Objects

variable {marks : Marks} {flags : List Bool} {text : List Char}

/-- The lines of a text, after the one in which it begins, tell something, whatever follows it. -/
def Marks.TellsInside (marks : Marks) (text : List Char) (flags : List Bool) : Prop :=
  ∀ rest, marks.toldLater (text ++ rest) = flags ++ marks.toldLater rest

/-- A text at the beginning of a line tells something, whatever follows it. -/
def Marks.TellsLine (marks : Marks) (text : List Char) (flags : List Bool) : Prop :=
  ∀ rest, marks.told (text ++ rest) = flags ++ marks.toldLater rest

theorem Marks.tellsInside_of_not_mem (h : '\n' ∉ text) : marks.TellsInside text [] :=
  fun _ => toldLater_append h

theorem newline_not_mem_of_plain {name : String} (h : IsPlainName name) : '\n' ∉ name.toList :=
  fun hmem => absurd (h _ hmem).2.2 (by decide)

theorem newline_not_mem_indentation (depth : ℕ) : '\n' ∉ indentation depth :=
  fun hmem => absurd (List.eq_of_mem_replicate hmem) (by decide)

theorem newline_not_mem_writtenChar (c : Char) : '\n' ∉ Json.writtenChar c := by
  have hdigit : ∀ n, '\n' ≠ Json.hexDigit n := by
    intro n h
    have hdecimal := Json.hexValue?_hexDigit n
    rw [← h] at hdecimal
    exact absurd hdecimal nofun
  unfold Json.writtenChar
  split_ifs with hquote hbackslash hnewline hreturn htab hback hfeed hcontrol
  iterate 7 decide
  · simp [hdigit]
  · simpa using Ne.symm hnewline

theorem newline_not_mem_writtenText (s : String) : '\n' ∉ (Json.writtenText s).toList := by
  simp only [Json.writtenText, String.toList_ofList, List.mem_append, List.mem_cons,
    List.mem_flatMap, not_or, not_exists, not_and]
  exact ⟨⟨by decide, fun c _ => newline_not_mem_writtenChar c⟩, by decide, by simp⟩

section Field

variable {depth own : ℕ} {key name : String} {part : String}

theorem Marks.told_field (hkey : IsPlainName key) (cs : List Char) :
    (field own key).told cs = ((field own key).told? cs).toList ++ (field own key).toldLater cs := by
  have hname := newline_not_mem_of_plain hkey
  refine told_eq ?_ ?_ cs
  · simp only [field, List.mem_append, List.mem_cons, not_or]
    exact ⟨newline_not_mem_indentation _, by decide, hname, by decide⟩
  · simp only [field, List.mem_append, List.mem_cons, not_or]
    exact ⟨newline_not_mem_indentation _, by decide, hname, by decide⟩

theorem Marks.told?_field_eq_none {c : Char} (hc : c ≠ ' ') (h : c = '"' → depth ≠ own)
    (cs : List Char) :
    (field own key).told? (indentation depth ++ c :: cs) = none := by
  have hne : ∀ mark, ¬ indentation own ++ '"' :: mark <+:
      indentation depth ++ c :: cs := by
    intro mark hprefix
    obtain ⟨hdepth, hquote, -⟩ := (indented_prefix_iff hc).mp hprefix
    exact h hquote hdepth.symm
  simp only [told?, field, List.isPrefixOf_iff_prefix, hne, if_false]

theorem Marks.told?_field_of_ne (hkey : IsPlainName key) (h : name ≠ key) (cs : List Char) :
    (field own key).told?
      (indentation depth ++ ((Json.writtenText name).toList ++ cs)) = none := by
  have hne : ∀ mark, ¬ indentation own ++ '"' :: (key.toList ++ '"' :: mark) <+:
      indentation depth ++ ((Json.writtenText name).toList ++ cs) := by
    intro mark hprefix
    have hwritten : (Json.writtenText name).toList ++ cs =
        '"' :: (name.toList.flatMap Json.writtenChar ++ '"' :: cs) := by
      simp [Json.writtenText]
    rw [hwritten, indented_prefix_iff (by decide), written_prefix_iff hkey] at hprefix
    exact h (String.toList_inj.mp hprefix.2.2.1.symm)
  have htrue : "\": true".toList = '"' :: ": true".toList := by simp
  have hfalse : "\": false".toList = '"' :: ": false".toList := by simp
  simp only [told?, field, List.isPrefixOf_iff_prefix, htrue, hfalse, hne, if_false]

theorem Marks.told?_field_self (hkey : IsPlainName key) (b : Bool) (cs : List Char) :
    (field own key).told? (indentation own ++
      ((Json.writtenText key).toList ++ ((": " ++ if b then "true" else "false").toList ++ cs))) =
        some b := by
  have hwritten : (Json.writtenText key).toList = '"' :: (key.toList ++ ['"']) := by
    have hplain : key.toList.flatMap Json.writtenChar = key.toList :=
      (List.flatMap_congr fun c hc => writtenChar_of_plain (hkey c hc)).trans
        (List.flatMap_singleton' _)
    rw [Json.writtenText, String.toList_ofList, hplain]
    rfl
  have hmark (word : String) (rest : List Char) :
      indentation own ++ '"' :: (key.toList ++ ("\": " ++ word).toList) <+:
        indentation own ++ ((Json.writtenText key).toList ++
          ((": " ++ word).toList ++ rest)) := by
    refine (List.prefix_append_right_inj _).mpr ?_
    refine ⟨rest, ?_⟩
    simp [hwritten]
  cases b with
  | true =>
      rw [told?, if_pos]
      exact List.isPrefixOf_iff_prefix.mpr (hmark "true" cs)
  | false =>
      rw [told?, if_neg, if_pos]
      · exact List.isPrefixOf_iff_prefix.mpr (hmark "false" cs)
      · rw [List.isPrefixOf_iff_prefix, field, hwritten, List.prefix_append_right_inj]
        simp [List.cons_prefix_cons, List.prefix_append_right_inj]

end Field

end Objects

section Objects

variable {own depth : ℕ} {key : String} {flags : List Bool} {text : List Char}

def fieldLine (depth : ℕ) (f : String × Json) : List Char :=
  indentation depth ++ ((Json.writtenText f.1).toList ++
    (": " ++ f.2.indented depth).toList)

theorem tellsLine_field (hkey : IsPlainName key) {f : String × Json}
    (h : depth ≠ own ∨ f.1 ≠ key)
    (hvalue : (Marks.field own key).TellsInside (f.2.indented depth).toList flags) :
    (Marks.field own key).TellsLine (fieldLine depth f) flags := by
  intro rest
  have hnone : (Marks.field own key).told? (fieldLine depth f ++ rest) = none := by
    rw [fieldLine, List.append_assoc, List.append_assoc]
    rcases h with hdepth | hname
    · have hwritten : (Json.writtenText f.1).toList =
          '"' :: (f.1.toList.flatMap Json.writtenChar ++ ['"']) := by
        simp [Json.writtenText]
      rw [hwritten, List.cons_append]
      exact Marks.told?_field_eq_none (by decide) (fun _ => hdepth) _
    · exact Marks.told?_field_of_ne hkey hname _
  have hcolon : (": " ++ f.2.indented depth).toList = ": ".toList ++ (f.2.indented depth).toList :=
    String.toList_append ..
  rw [Marks.told_field hkey, hnone, fieldLine, hcolon, List.append_assoc, List.append_assoc,
    List.append_assoc, Marks.toldLater_append (newline_not_mem_indentation _),
    Marks.toldLater_append (newline_not_mem_writtenText _), Marks.toldLater_append (by decide),
    hvalue]
  rfl

theorem tellsLine_own (hkey : IsPlainName key) (b : Bool) :
    (Marks.field own key).TellsLine (fieldLine own (key, .bool b)) [b] := by
  intro rest
  have hvalue : (Json.bool b).indented own = if b then "true" else "false" := by
    rw [Json.indented]
  have hword : '\n' ∉ (": " ++ if b then "true" else "false").toList := by
    cases b <;> decide
  rw [Marks.told_field hkey, fieldLine, hvalue, List.append_assoc, List.append_assoc,
    Marks.told?_field_self hkey, Marks.toldLater_append (newline_not_mem_indentation _),
    Marks.toldLater_append (newline_not_mem_writtenText _), Marks.toldLater_append hword]
  rfl

theorem tellsLine_item (hkey : IsPlainName key) (hdepth : depth ≠ own) {c : Char}
    (hc : c ≠ ' ') (hvalue : (Marks.field own key).TellsInside (c :: text) flags) :
    (Marks.field own key).TellsLine (indentation depth ++ c :: text) flags := by
  intro rest
  rw [Marks.told_field hkey, List.append_assoc, List.cons_append,
    Marks.told?_field_eq_none hc fun _ => hdepth,
    Marks.toldLater_append (newline_not_mem_indentation _), ← List.cons_append, hvalue]
  rfl

theorem tellsLine_intercalate {parts : List (List Char)} {told : List (List Bool)}
    (hne : parts ≠ [])
    (h : List.Forall₂ (fun part flags =>
      (Marks.field own key).TellsLine (indentation depth ++ part) flags) parts told) :
    (Marks.field own key).TellsLine
      (indentation depth ++ (',' :: '\n' :: indentation depth).intercalate parts)
      told.flatten := by
  induction h with
  | nil => exact absurd rfl hne
  | @cons part flags parts told hpart hparts ih =>
      cases hparts with
      | nil => simpa using hpart
      | @cons next nextFlags parts told hnext hparts =>
          intro rest
          have hlater := ih (List.cons_ne_nil _ _) rest
          have hcomma : '\n' ∉ [','] := by decide
          rw [List.intercalate_cons_cons]
          simp only [List.append_assoc, List.cons_append] at hpart hlater ⊢
          rw [← List.append_assoc, hpart, ← List.singleton_append, Marks.toldLater_append hcomma,
            Marks.toldLater_newline, hlater]
          simp only [List.flatten_cons, List.append_assoc]

theorem indentedFields_eq (depth : ℕ) (fields : List (String × Json)) :
    Json.indentedFields depth fields =
      fields.map fun f => Json.writtenText f.1 ++ ": " ++ f.2.indented depth := by
  induction fields with
  | nil => rw [Json.indentedFields, List.map_nil]
  | cons f fields ih => rw [Json.indentedFields, ih, List.map_cons]

theorem indentedItems_eq (depth : ℕ) (items : List Json) :
    Json.indentedItems depth items = items.map (Json.indented depth) := by
  induction items with
  | nil => rw [Json.indentedItems, List.map_nil]
  | cons item items ih => rw [Json.indentedItems, ih, List.map_cons]

theorem toList_newline (depth : ℕ) : (Json.newline depth).toList = '\n' :: indentation depth := by
  rw [Json.newline, String.toList_ofList, indentation]

theorem toList_join_newline (depth : ℕ) (parts : List String) :
    (join ("," ++ Json.newline depth) parts).toList =
      (',' :: '\n' :: indentation depth).intercalate (parts.map String.toList) := by
  have hcomma : ",".toList = [','] := by simp
  rw [join, String.toList_intercalate, String.toList_append, toList_newline, hcomma]
  rfl

theorem tellsInside_enclosed (hkey : IsPlainName key) {opening closing : String} {first last : Char}
    (hopening : opening.toList = [first]) (hfirst : first ≠ '\n')
    (hclosing : closing.toList = [last]) (hlast : last ∉ ['\n', ' ', '"'])
    {parts : List String} {told : List (List Bool)} (hne : parts ≠ [])
    (h : List.Forall₂ (fun part flags => (Marks.field own key).TellsLine
      (indentation (depth + 1) ++ part.toList) flags) parts told) :
    (Marks.field own key).TellsInside
      (opening ++ Json.newline (depth + 1) ++ join ("," ++ Json.newline (depth + 1)) parts ++
        Json.newline depth ++ closing).toList told.flatten := by
  intro rest
  simp only [List.mem_cons, List.not_mem_nil, or_false, not_or] at hlast
  obtain ⟨hbreak, hblank, hquote⟩ := hlast
  have hopen : '\n' ∉ [first] := by simpa using Ne.symm hfirst
  have hclose : '\n' ∉ [last] := by simpa using Ne.symm hbreak
  have hparts := tellsLine_intercalate (mt List.map_eq_nil_iff.mp hne)
    (List.forall₂_map_left_iff.mpr h) ('\n' :: (indentation depth ++ (last :: rest)))
  have hend : (Marks.field own key).told (indentation depth ++ last :: rest) =
      (Marks.field own key).toldLater rest := by
    rw [Marks.told_field hkey, Marks.told?_field_eq_none hblank (absurd · hquote),
      Marks.toldLater_append (newline_not_mem_indentation _), ← List.singleton_append,
      Marks.toldLater_append hclose]
    rfl
  simp only [String.toList_append, toList_newline, toList_join_newline, hopening, hclosing,
    List.append_assoc, List.cons_append, List.nil_append] at hparts ⊢
  rw [← List.singleton_append, Marks.toldLater_append hopen, Marks.toldLater_newline, hparts,
    Marks.toldLater_newline, hend]

theorem tellsInside_object (hkey : IsPlainName key) {fields : List (String × Json)}
    {told : List (List Bool)}
    (h : List.Forall₂ (fun f flags =>
      (Marks.field own key).TellsLine (fieldLine (depth + 1) f) flags) fields told) :
    (Marks.field own key).TellsInside ((Json.object fields).indented depth).toList
      told.flatten := by
  cases fields with
  | nil =>
      cases h
      rw [Json.indented]
      exact Marks.tellsInside_of_not_mem (by simp)
  | cons f fields =>
      rw [Json.indented]
      refine tellsInside_enclosed hkey rfl (by decide) rfl (by decide) ?_ ?_
      · rw [indentedFields_eq, List.map_cons]
        exact List.cons_ne_nil _ _
      · rw [indentedFields_eq, List.forall₂_map_left_iff]
        refine h.imp fun f flags hf => ?_
        simpa [fieldLine, indentation] using hf

theorem tellsInside_array (hkey : IsPlainName key) {items : List Json}
    {told : List (List Bool)}
    (h : List.Forall₂ (fun item flags => (Marks.field own key).TellsLine
      (indentation (depth + 1) ++ (Json.indented (depth + 1) item).toList) flags) items told) :
    (Marks.field own key).TellsInside ((Json.array items).indented depth).toList
      told.flatten := by
  cases items with
  | nil =>
      cases h
      rw [Json.indented]
      exact Marks.tellsInside_of_not_mem (by simp)
  | cons item items =>
      rw [Json.indented]
      refine tellsInside_enclosed hkey rfl (by decide) rfl (by decide) ?_ ?_
      · rw [indentedItems_eq, List.map_cons]
        exact List.cons_ne_nil _ _
      · rw [indentedItems_eq, List.forall₂_map_left_iff]
        exact h

end Objects

section Values

/-- The value is written on one line at every depth. -/
def IsFlat (j : Json) : Prop := ∀ depth, '\n' ∉ (j.indented depth).toList

theorem isFlat_string (s : String) : IsFlat (.string s) := by
  intro depth
  rw [Json.indented]
  exact newline_not_mem_writtenText s

theorem isFlat_bool (b : Bool) : IsFlat (.bool b) := by
  intro depth
  rw [Json.indented]
  cases b <;> decide

theorem newline_not_mem_toDigits (n : ℕ) : '\n' ∉ Nat.toDigits 10 n :=
  fun h => absurd (Nat.isDigit_of_mem_toDigits (by decide) (by decide) h) (by decide)

theorem newline_not_mem_toString (n : Int) : '\n' ∉ (toString n).toList := by
  cases n with
  | ofNat n =>
      change '\n' ∉ (Nat.repr n).toList
      rw [Nat.toList_repr]
      exact newline_not_mem_toDigits n
  | negSucc n =>
      change '\n' ∉ ("-" ++ Nat.repr (n + 1)).toList
      rw [String.toList_append, List.mem_append, Nat.toList_repr, not_or]
      exact ⟨by decide, newline_not_mem_toDigits _⟩

theorem isFlat_int (n : Int) : IsFlat (.int n) := by
  intro depth
  rw [Json.indented]
  exact newline_not_mem_toString n

theorem newline_not_mem_render (layout : DecimalLayout) (d : Decimal) :
    '\n' ∉ (layout.render d).toList := by
  have hdigits := newline_not_mem_toDigits d.digits
  have hzeros : ∀ n, '\n' ∉ List.replicate n '0' :=
    fun n h => absurd (List.eq_of_mem_replicate h) (by decide)
  simp only [DecimalLayout.render, String.toList_ofList]
  split_ifs
  · simp [hdigits, hzeros]
  · simp only [List.mem_append, List.mem_cons, not_or]
    exact ⟨fun h => hdigits (List.mem_of_mem_take h), by decide,
      fun h => hdigits (List.mem_of_mem_drop h)⟩
  · simp [hdigits, hzeros]
  · simp only [List.mem_append, List.mem_cons, not_or]
    refine ⟨?_, by decide, newline_not_mem_toString _⟩
    split
    · exact List.not_mem_nil
    · next h => rwa [h] at hdigits
    · next h =>
        rw [h, List.mem_cons, not_or] at hdigits
        simpa [List.mem_cons, not_or] using hdigits

theorem isFlat_real (x : Binary64) : IsFlat (.real x) := by
  intro depth
  have hsign : '\n' ∉ (if x.negative then "-" else "").toList := by
    cases x.negative <;> decide
  rw [Json.indented, Binary64.text]
  split_ifs <;> simp_all [newline_not_mem_render]

theorem isFlat_ofText? (text : Option String) : IsFlat (.ofText? text) := by
  cases text with
  | some s => exact isFlat_string s
  | none =>
      intro depth
      rw [Json.ofText?, Json.indented]
      decide

variable {own depth : ℕ} {key name : String} {told : List (List Bool)}

theorem tellsLine_flat (hkey : IsPlainName key) (h : depth ≠ own ∨ name ≠ key) {value : Json}
    (hvalue : IsFlat value) :
    (Marks.field own key).TellsLine (fieldLine depth (name, value)) [] :=
  tellsLine_field hkey h (Marks.tellsInside_of_not_mem (hvalue depth))

theorem told_document (hkey : IsPlainName key) {fields : List (String × Json)}
    (h : List.Forall₂ (fun f flags =>
      (Marks.field own key).TellsLine (fieldLine 1 f) flags) fields told) :
    (Marks.field own key).told (line ((Json.object fields).indented 0)).toList =
      told.flatten := by
  have hopen : ∃ cs, ((Json.object fields).indented 0).toList = '\x7b' :: cs := by
    cases fields with
    | nil => exact ⟨['\x7d'], by rw [Json.indented]; rfl⟩
    | cons f fields => exact ⟨_, by rw [Json.indented]; simp [String.toList_append]; rfl⟩
  obtain ⟨cs, hcs⟩ := hopen
  have hfirst : (Marks.field own key).told? (indentation 0 ++ '\x7b' :: (cs ++ ['\n'])) = none :=
    Marks.told?_field_eq_none (by decide) (fun h => absurd h (by decide)) _
  have hempty : (Marks.field own key).told [] = [] := by
    have hnone : (Marks.field own key).told? [] = none := by
      simp [Marks.told?, Marks.field]
    rw [Marks.told, splitAtChar, List.filterMap_cons_none hnone, List.filterMap_nil]
  have hinside : (Marks.field own key).TellsInside ((Json.object fields).indented 0).toList
      told.flatten := tellsInside_object hkey h
  rw [toList_line, Marks.told_field hkey, hinside, Marks.toldLater_newline, hempty, hcs,
    List.append_nil]
  change (Marks.field own key).told? ('\x7b' :: (cs ++ ['\n'])) = none at hfirst
  rw [List.cons_append, hfirst]
  rfl

end Values

end NotebookCheck.CommandLine

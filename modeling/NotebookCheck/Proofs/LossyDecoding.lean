import Mathlib.Order.Nat
import NotebookCheck.Proofs.Utf8

namespace NotebookCheck.Text.Utf8

/-- What the bytes after a first byte begin with: nothing that counts, the other bytes of a
character, some of them at the end of all bytes, or some of them and a byte that does not belong
there. -/
inductive AfterLead (lead : UInt8) : List UInt8 → Prop
  | unannounced (rest : List UInt8) (hwidth : announcedWidth lead = 0) : AfterLead lead rest
  | complete (tail rest : List UInt8) (hfits : fits lead tail = true)
      (hwidth : tail.length + 1 = announcedWidth lead) : AfterLead lead (tail ++ rest)
  | unfinished (tail : List UInt8) (hfits : fits lead tail = true)
      (hwidth : tail.length + 1 < announcedWidth lead) : AfterLead lead tail
  | broken (tail : List UInt8) (next : UInt8) (rest : List UInt8) (hfits : fits lead tail = true)
      (hwidth : tail.length + 1 < announcedWidth lead)
      (hnext : fits lead (tail ++ [next]) = false) : AfterLead lead (tail ++ next :: rest)

theorem afterLead_append {lead : UInt8} {tail : List UInt8} (hfits : fits lead tail = true)
    (rest : List UInt8) : AfterLead lead (tail ++ rest) := by
  induction rest generalizing tail with
  | nil =>
      rcases Nat.lt_or_eq_of_le (length_lt_of_fits hfits) with hless | hequal
      · rw [List.append_nil]
        exact .unfinished tail hfits hless
      · exact .complete tail [] hfits hequal
  | cons next rest ih =>
      rcases Nat.lt_or_eq_of_le (length_lt_of_fits hfits) with hless | hequal
      · cases hnext : fits lead (tail ++ [next]) with
        | false => exact .broken tail next rest hfits hless hnext
        | true =>
            have hafter := ih hnext
            rw [List.append_assoc] at hafter
            exact hafter
      · exact .complete tail (next :: rest) hfits hequal

theorem afterLead (lead : UInt8) (rest : List UInt8) : AfterLead lead rest := by
  by_cases h : announcedWidth lead = 0
  · exact .unannounced rest h
  · exact afterLead_append ((fits_nil lead).mpr h) rest

section Parts

variable {lead : UInt8} {tail : List UInt8}

theorem decodeLossyChars_of_unannounced (h : announcedWidth lead = 0) (rest : List UInt8) :
    decodeLossyChars (lead :: rest) = replacement :: decodeLossyChars rest := by
  rw [decodeLossyChars, front_of_unannounced h]
  rfl

theorem decodeLossyChars_of_fits (h : fits lead tail = true)
    (hwidth : tail.length + 1 = announcedWidth lead) :
    ∃ c, ∀ rest, decodeLossyChars (lead :: (tail ++ rest)) = c :: decodeLossyChars rest := by
  obtain ⟨c, -, hc⟩ := front_of_fits h hwidth
  refine ⟨c, fun rest => ?_⟩
  rw [decodeLossyChars, hc rest]
  change c :: decodeLossyChars ((tail ++ rest).drop tail.length) = _
  rw [List.drop_left]

theorem decodeLossyChars_of_unfinished (h : fits lead tail = true)
    (hwidth : tail.length + 1 < announcedWidth lead) :
    decodeLossyChars (lead :: tail) = [replacement] := by
  rw [decodeLossyChars, front_of_unfinished h hwidth]

theorem decodeLossyChars_of_broken {next : UInt8} (h : fits lead tail = true)
    (hwidth : tail.length + 1 < announcedWidth lead) (hnext : fits lead (tail ++ [next]) = false)
    (rest : List UInt8) :
    decodeLossyChars (lead :: (tail ++ next :: rest)) =
      replacement :: decodeLossyChars (next :: rest) := by
  rw [decodeLossyChars, front_of_broken h hwidth hnext]
  change replacement :: decodeLossyChars ((tail ++ next :: rest).drop tail.length) = _
  rw [List.drop_left]

end Parts

/-- The cut between two byte sequences goes through a character, of which the second one has the
next byte at least. -/
def CutsCharacter (first second : List UInt8) : Prop :=
  ∃ c before next after, encodeChar c = before ++ next :: after ∧ before ≠ [] ∧
    before <:+ first ∧ [next] <+: second

theorem CutsCharacter.of_suffix {first second : List UInt8} (more : List UInt8)
    (h : CutsCharacter first second) : CutsCharacter (more ++ first) second := by
  obtain ⟨c, before, next, after, hc, hbefore, hfirst, hsecond⟩ := h
  exact ⟨c, before, next, after, hc, hbefore, hfirst.trans (List.suffix_append more first),
    hsecond⟩

theorem CutsCharacter.of_fits {lead next : UInt8} {tail : List UInt8} (rest : List UInt8)
    (h : fits lead (tail ++ [next]) = true) : CutsCharacter (lead :: tail) (next :: rest) := by
  obtain ⟨c, after, hc⟩ := (fits_iff_exists_encodeChar lead (tail ++ [next])).mp h
  refine ⟨c, lead :: tail, next, after, ?_, List.cons_ne_nil _ _, List.suffix_refl _,
    List.prefix_append [next] rest⟩
  rw [← hc, List.cons_append, List.append_assoc]
  rfl

theorem decodeLossyChars_append (first second : List UInt8)
    (h : ¬ CutsCharacter first second) :
    decodeLossyChars (first ++ second) = decodeLossyChars first ++ decodeLossyChars second := by
  -- The first part of the first bytes is read the same way whatever follows, unless it is the
  -- beginning of a character at their end: then the next byte must not go on with it.
  induction hlength : first.length using Nat.strongRecOn generalizing first with
  | _ length ih =>
      subst hlength
      cases first with
      | nil =>
          rw [decodeLossyChars]
          rfl
      | cons lead rest =>
          cases afterLead lead rest with
          | unannounced _ hwidth =>
              have hrest := ih rest.length (Nat.lt_add_one rest.length) rest
                (fun hcut => h (hcut.of_suffix [lead])) rfl
              rw [List.cons_append, decodeLossyChars_of_unannounced hwidth,
                decodeLossyChars_of_unannounced hwidth, hrest, List.cons_append]
          | complete tail rest hfits hwidth =>
              have hless : rest.length < (lead :: (tail ++ rest)).length := by
                simp only [List.length_cons, List.length_append]
                omega
              have hrest := ih rest.length hless rest
                (fun hcut => h (hcut.of_suffix (lead :: tail))) rfl
              obtain ⟨c, hc⟩ := decodeLossyChars_of_fits hfits hwidth
              rw [List.cons_append, List.append_assoc, hc, hc, hrest, List.cons_append]
          | unfinished _ hfits hwidth =>
              cases second with
              | nil => simp [decodeLossyChars]
              | cons next more =>
                  have hnext : fits lead (rest ++ [next]) = false :=
                    Bool.eq_false_iff.mpr fun hnext => h (.of_fits more hnext)
                  rw [List.cons_append, decodeLossyChars_of_broken hfits hwidth hnext,
                    decodeLossyChars_of_unfinished hfits hwidth]
                  rfl
          | broken tail next rest hfits hwidth hnext =>
              have hless : (next :: rest).length < (lead :: (tail ++ next :: rest)).length := by
                simp only [List.length_cons, List.length_append]
                omega
              have hrest := ih (next :: rest).length hless (next :: rest)
                (fun hcut => h (hcut.of_suffix (lead :: tail))) rfl
              rw [List.cons_append, List.append_assoc, List.cons_append,
                decodeLossyChars_of_broken hfits hwidth hnext,
                decodeLossyChars_of_broken hfits hwidth hnext, ← List.cons_append, hrest,
                List.cons_append]

theorem length_decodeLossyChars_le_of_fits {lead : UInt8} {tail : List UInt8}
    (hfits : fits lead tail = true) (rest : List UInt8) :
    (decodeLossyChars (lead :: (tail ++ rest))).length ≤ (decodeLossyChars rest).length + 1 := by
  -- Each byte that goes on with the character would be a fault of its own without it.
  induction rest generalizing tail with
  | nil =>
      rcases Nat.lt_or_eq_of_le (length_lt_of_fits hfits) with hless | hequal
      · rw [List.append_nil, decodeLossyChars_of_unfinished hfits hless]
        exact Nat.le_add_left 1 _
      · obtain ⟨c, hc⟩ := decodeLossyChars_of_fits hfits hequal
        rw [hc]
        rfl
  | cons next rest ih =>
      rcases Nat.lt_or_eq_of_le (length_lt_of_fits hfits) with hless | hequal
      · cases hnext : fits lead (tail ++ [next]) with
        | false =>
            rw [decodeLossyChars_of_broken hfits hless hnext]
            rfl
        | true =>
            have hcontinues := isContinuation_of_fits hnext
              (List.mem_append_right tail (List.mem_singleton_self next))
            have hrest := ih hnext
            rw [List.append_assoc] at hrest
            rw [decodeLossyChars_of_unannounced (announcedWidth_of_isContinuation hcontinues)]
            exact hrest.trans (Nat.le_add_right _ 1)
      · obtain ⟨c, hc⟩ := decodeLossyChars_of_fits hfits hequal
        rw [hc]
        rfl

theorem CutsCharacter.exists_fits {first second : List UInt8} (h : CutsCharacter first second) :
    ∃ more lead tail next rest, first = more ++ lead :: tail ∧ second = next :: rest ∧
      fits lead (tail ++ [next]) = true := by
  obtain ⟨c, before, next, after, hc, hbefore, ⟨more, rfl⟩, rest, rfl⟩ := h
  obtain ⟨lead, tail, rfl⟩ := List.exists_cons_of_ne_nil hbefore
  refine ⟨more, lead, tail, next, rest, rfl, rfl, ?_⟩
  refine (fits_iff_exists_encodeChar lead (tail ++ [next])).mpr ⟨c, after, ?_⟩
  rw [hc, List.cons_append, List.cons_append, List.append_assoc]
  rfl

theorem not_cutsCharacter_of_announced {lead : UInt8} (h : announcedWidth lead ≠ 0)
    (first rest : List UInt8) : ¬ CutsCharacter first (lead :: rest) := by
  intro hcut
  obtain ⟨more, other, tail, next, others, -, hsecond, hfits⟩ := hcut.exists_fits
  cases hsecond
  exact h (announcedWidth_of_isContinuation
    (isContinuation_of_fits hfits (List.mem_append_right tail (List.mem_singleton_self lead))))

theorem length_decodeLossyChars_append_lt {first second : List UInt8}
    (h : CutsCharacter first second) :
    (decodeLossyChars (first ++ second)).length <
      (decodeLossyChars first).length + (decodeLossyChars second).length := by
  obtain ⟨more, lead, tail, next, rest, rfl, rfl, hfits⟩ := h.exists_fits
  have hlead : announcedWidth lead ≠ 0 := (Nat.zero_lt_of_lt (length_lt_of_fits hfits)).ne'
  have hless : tail.length + 1 < announcedWidth lead := by
    have := length_lt_of_fits hfits
    rwa [List.length_append] at this
  have hnext := announcedWidth_of_isContinuation
    (isContinuation_of_fits hfits (List.mem_append_right tail (List.mem_singleton_self next)))
  have hwhole := length_decodeLossyChars_le_of_fits hfits rest
  rw [List.append_assoc] at hwhole
  -- Nothing before the first byte of the character that is cut matters.
  rw [List.append_assoc, List.cons_append,
    decodeLossyChars_append more _ (not_cutsCharacter_of_announced hlead _ _),
    decodeLossyChars_append more _ (not_cutsCharacter_of_announced hlead _ _),
    decodeLossyChars_of_unfinished (fits_of_append hfits) hless,
    decodeLossyChars_of_unannounced hnext]
  simp only [List.length_append, List.length_cons, List.length_nil]
  change (decodeLossyChars (lead :: (tail ++ next :: rest))).length ≤ _ at hwhole
  omega

theorem length_decodeLossyChars_append_le (first second : List UInt8) :
    (decodeLossyChars (first ++ second)).length ≤
      (decodeLossyChars first).length + (decodeLossyChars second).length := by
  by_cases h : CutsCharacter first second
  · exact (length_decodeLossyChars_append_lt h).le
  · rw [decodeLossyChars_append first second h, List.length_append]

theorem length_decodeLossyChars_flatten_le (pieces : List (List UInt8)) :
    (decodeLossyChars pieces.flatten).length ≤ (pieces.flatMap decodeLossyChars).length := by
  induction pieces with
  | nil => exact Nat.le_of_eq (by simp [decodeLossyChars])
  | cons piece rest ih =>
      have happend := length_decodeLossyChars_append_le piece rest.flatten
      rw [List.flatten_cons, List.flatMap_cons, List.length_append]
      omega

/-- No cut between two pieces goes through a character. -/
def KeepsCharacters (pieces : List (List UInt8)) : Prop :=
  ∀ before after, pieces = before ++ after → ¬ CutsCharacter before.flatten after.flatten

theorem KeepsCharacters.of_cons {piece : List UInt8} {rest : List (List UInt8)}
    (h : KeepsCharacters (piece :: rest)) : KeepsCharacters rest := by
  rintro before after rfl hcut
  exact h (piece :: before) after rfl (hcut.of_suffix piece)

/-- Pieces decode one by one to what they decode to together exactly if no character is cut. -/
theorem flatMap_decodeLossyChars_eq_iff (pieces : List (List UInt8)) :
    pieces.flatMap decodeLossyChars = decodeLossyChars pieces.flatten ↔
      KeepsCharacters pieces := by
  constructor
  · rintro h before after rfl hcut
    have hlengths := congrArg List.length h
    have hbefore := length_decodeLossyChars_flatten_le before
    have hafter := length_decodeLossyChars_flatten_le after
    have hless := length_decodeLossyChars_append_lt hcut
    rw [List.flatMap_append, List.length_append, List.flatten_append] at hlengths
    omega
  · intro h
    induction pieces with
    | nil => simp [decodeLossyChars]
    | cons piece rest ih =>
        have hfirst := h [piece] rest rfl
        rw [List.flatten_singleton] at hfirst
        rw [List.flatMap_cons, List.flatten_cons, ih h.of_cons,
          decodeLossyChars_append piece rest.flatten hfirst]

end NotebookCheck.Text.Utf8

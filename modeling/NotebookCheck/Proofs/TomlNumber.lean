import Mathlib.Data.List.Basic
import Mathlib.Data.List.TakeDrop
import Mathlib.Order.Nat
import NotebookCheck.Proofs.Digits
import NotebookCheck.Toml.Reader

namespace NotebookCheck.Toml

open Number

theorem plainDigits?_of_all {digits : List Char} (hne : digits ≠ [])
    (h : ∀ c ∈ digits, c.isDigit) : plainDigits? Char.isDigit digits = some digits := by
  induction digits with
  | nil => exact absurd rfl hne
  | cons c digits ih =>
      obtain ⟨hc, hdigits⟩ := List.forall_mem_cons.mp h
      rcases digits with _ | ⟨d, digits⟩
      · simp [plainDigits?, hc]
      · have hd : d ≠ '_' := by rintro rfl; exact absurd (hdigits '_' (by simp)) (by decide)
        simp [plainDigits?, hc, hd, ih (by simp) hdigits]

theorem wide?_of_lt {n : ℕ} (h : n < Nat.pow 2 128) : wide? (n : ℤ) = some (n : ℤ) := by
  have hleast : -((Nat.pow 2 127 : ℕ) : ℤ) ≤ (n : ℤ) :=
    Int.le_trans (Int.neg_nonpos_of_nonneg (Int.natCast_nonneg _)) (Int.natCast_nonneg n)
  have hmost : (n : ℤ) < ((Nat.pow 2 128 : ℕ) : ℤ) := Int.ofNat_lt.mpr h
  rw [wide?, if_pos]
  rw [decide_eq_true hleast, decide_eq_true hmost, Bool.and_self]

/-- What follows is a parameter here, since the bounds of `wide?` are too large to be unfolded. -/
theorem decimal?_bind_of_unsigned {digits : List Char} (hsign : sign digits = (false, digits))
    (hdecimal : decimal? digits = some digits) (w : ℤ → Option ℤ) :
    (do
      let (negative, rest) := sign digits
      let n := valueOf 10 (← decimal? rest)
      w (if negative then -(n : ℤ) else n)) = w (valueOf 10 digits) := by
  simp [hsign, hdecimal]

theorem whole?_of_all {digits : List Char} (hne : digits ≠ [])
    (hdigit : ∀ c ∈ digits, c.isDigit) (hhead : digits.head? ≠ some '0') :
    whole? digits = wide? (valueOf 10 digits) := by
  have hplain := plainDigits?_of_all hne hdigit
  rcases digits with _ | ⟨c, digits⟩
  · exact absurd rfl hne
  · have hc : c ≠ '0' := by simpa using hhead
    have hplus : c ≠ '+' := by rintro rfl; exact absurd (hdigit '+' (by simp)) (by decide)
    have hminus : c ≠ '-' := by rintro rfl; exact absurd (hdigit '-' (by simp)) (by decide)
    have hsign : sign (c :: digits) = (false, c :: digits) := by simp [sign, hplus, hminus]
    have hdecimal : decimal? (c :: digits) = some (c :: digits) := by
      simp [decimal?, hplain, hc]
    unfold whole?
    split
    · next h => exact absurd (List.cons.inj h).1 hc
    · next h => exact absurd (List.cons.inj h).1 hc
    · next h => exact absurd (List.cons.inj h).1 hc
    · exact decimal?_bind_of_unsigned hsign hdecimal wide?

theorem whole?_zero : whole? ['0'] = wide? 0 := by
  simp [whole?, sign, decimal?, plainDigits?, valueOf, hexValue?]

theorem whole?_toDigits {n : ℕ} (h : n < Nat.pow 2 128) :
    whole? (Nat.toDigits 10 n) = some (n : ℤ) := by
  by_cases hzero : n = 0
  · rw [hzero, Nat.toDigits_zero, whole?_zero]
    exact wide?_of_lt (by decide)
  · rw [whole?_of_all Nat.toDigits_ne_nil
        (fun c hc => Nat.isDigit_of_mem_toDigits (by decide) (by decide) hc)
        (head?_toDigits_ne_zero hzero),
      valueOf_toDigits, wide?_of_lt h]

theorem scalar?_toDigits {n : ℕ} (h : n < Nat.pow 2 128) :
    scalar? (Nat.toDigits 10 n) = some (.whole n) := by
  have hno {word : List Char} (hword : 'e' ∈ word) : Nat.toDigits 10 n ≠ word := by
    intro heq
    rw [← heq] at hword
    exact absurd (Nat.isDigit_of_mem_toDigits (by decide) (by decide) hword) (by decide)
  rw [scalar?, if_neg (hno (by decide)), if_neg (hno (by decide)), whole?_toDigits h]

theorem takeWhile_dropWhile_append {p : Char → Bool} {cs rest : List Char} (hcs : ∀ c ∈ cs, p c)
    (hrest : ∀ c ∈ rest.head?, p c = false) :
    (cs ++ rest).takeWhile p = cs ∧ (cs ++ rest).dropWhile p = rest := by
  rw [List.takeWhile_append_of_pos hcs, List.dropWhile_append_of_pos hcs]
  rcases rest with _ | ⟨c, rest⟩
  · simp
  · have hc : p c = false := hrest c rfl
    simp [hc]

theorem spanScalar_line {cs : List Char} (h : cs.any isScalarEnd = false) (rest : List Char) :
    spanScalar (cs ++ '\n' :: rest) = (cs, '\n' :: rest) := by
  have hstays : ∀ c ∈ cs, (!isScalarEnd c) = true := by simpa using h
  have hends : ∀ c ∈ ('\n' :: rest).head?, (!isScalarEnd c) = false := by simp [isScalarEnd]
  obtain ⟨htake, hdrop⟩ := takeWhile_dropWhile_append hstays hends
  simp [spanScalar, htake, hdrop]

theorem readValue_scalar {c : Char} {cs : List Char} {node : Node}
    (hc : c ∉ ['"', '\'', '[', '\x7b']) (hend : (c :: cs).any isScalarEnd = false)
    (hnode : scalar? (c :: cs) = some node) (fuel depth : ℕ) (rest : List Char) :
    readValue (fuel + 1) depth (c :: cs ++ '\n' :: rest) = some (node, '\n' :: rest) := by
  simp only [List.mem_cons, List.not_mem_nil, or_false, not_or] at hc
  obtain ⟨hquote, hliteral, hbracket, hbrace⟩ := hc
  have hspan := spanScalar_line hend rest
  rw [List.cons_append] at hspan ⊢
  simp [readValue, hquote, hliteral, hbracket, hbrace, hspan, hnode]

theorem isScalarEnd_of_isDigit {c : Char} (h : c.isDigit) : isScalarEnd c = false := by
  rw [Bool.eq_false_iff]
  intro hend
  simp only [isScalarEnd, Bool.or_eq_true, decide_eq_true_eq] at hend
  obtain ((((((rfl | rfl) | rfl) | rfl) | rfl) | rfl) | rfl) | rfl := hend <;>
    exact absurd h (by decide)

theorem isGap_of_isDigit {c : Char} (h : c.isDigit) : isGap c = false := by
  have hend := isScalarEnd_of_isDigit h
  simp only [isScalarEnd, Bool.or_eq_false_iff] at hend
  obtain ⟨⟨⟨⟨⟨⟨⟨hspace, htab⟩, -⟩, -⟩, -⟩, -⟩, -⟩, -⟩ := hend
  rw [isGap, hspace, htab, Bool.or_self]

theorem readValue_toDigits {n : ℕ} (h : n < Nat.pow 2 128) (fuel depth : ℕ) (rest : List Char) :
    readValue (fuel + 1) depth (Nat.toDigits 10 n ++ '\n' :: rest) =
      some (.whole n, '\n' :: rest) := by
  have hnode := scalar?_toDigits h
  obtain ⟨c, cs, hcs, hdigits⟩ := exists_toDigits_eq_cons n
  have hc : c.isDigit := hdigits c (by simp)
  rw [hcs] at hnode ⊢
  have hend : (c :: cs).any isScalarEnd = false := by
    rw [List.any_eq_false]
    intro d hd
    simp [isScalarEnd_of_isDigit (hdigits d hd)]
  refine readValue_scalar ?_ hend hnode fuel depth rest
  intro hmem
  simp only [List.mem_cons, List.not_mem_nil, or_false] at hmem
  obtain rfl | rfl | rfl | rfl := hmem <;> exact absurd hc (by decide)

end NotebookCheck.Toml

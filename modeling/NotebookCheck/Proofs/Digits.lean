import Mathlib.Data.List.Basic
import Mathlib.Order.Nat
import NotebookCheck.Number.Decimal

namespace NotebookCheck.Number

theorem isDigit_iff_toNat (c : Char) :
    c.isDigit = true ↔ '0'.toNat ≤ c.toNat ∧ c.toNat ≤ '9'.toNat := by
  simp [Char.isDigit, UInt32.le_iff_toNat_le]

theorem hexValue?_of_isDigit {c : Char} (h : c.isDigit) :
    hexValue? c = some (c.toNat - '0'.toNat) := by
  have hrange : ('0' ≤ c && c ≤ '9') = true := by
    simpa [Char.isDigit, Char.le_def] using h
  rw [hexValue?, if_pos hrange]

theorem valueOf_toDigits (n : ℕ) : valueOf 10 (Nat.toDigits 10 n) = n := by
  have hfold : valueOf 10 (Nat.toDigits 10 n) = Nat.ofDigitChars 10 (Nat.toDigits 10 n) 0 := by
    apply List.foldl_ext
    intro m c hc
    rw [hexValue?_of_isDigit (Nat.isDigit_of_mem_toDigits (by decide) (by decide) hc),
      Option.getD_some, Nat.mul_comm]
  rw [hfold, Nat.ofDigitChars_toDigits (by decide) (by decide)]

theorem digitChar_ne_zero : ∀ n < 10, n ≠ 0 → Nat.digitChar n ≠ '0' := by decide

theorem head?_toDigits_ne_zero {n : ℕ} (h : n ≠ 0) : (Nat.toDigits 10 n).head? ≠ some '0' := by
  induction n using Nat.strongRecOn with
  | _ n ih =>
      by_cases hsmall : n < 10
      · rw [Nat.toDigits_of_lt_base hsmall]
        simpa using digitChar_ne_zero n hsmall h
      · rw [Nat.toDigits_of_base_le (by decide) (by omega),
          List.head?_append_of_ne_nil _ Nat.toDigits_ne_nil]
        exact ih (n / 10) (by omega) (by omega)

theorem exists_toDigits_eq_cons (n : ℕ) :
    ∃ c cs, Nat.toDigits 10 n = c :: cs ∧ ∀ d ∈ c :: cs, d.isDigit := by
  obtain ⟨c, cs, hcs⟩ := List.exists_cons_of_ne_nil (Nat.toDigits_ne_nil (n := n) (b := 10))
  refine ⟨c, cs, hcs, ?_⟩
  intro d hd
  rw [← hcs] at hd
  exact Nat.isDigit_of_mem_toDigits (by decide) (by decide) hd

end NotebookCheck.Number

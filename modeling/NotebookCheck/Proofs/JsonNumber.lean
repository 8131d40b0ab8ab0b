import Mathlib.Tactic.FinCases
import NotebookCheck.Json.Numeral
import NotebookCheck.Proofs.Digits
import NotebookCheck.Proofs.JsonText

namespace NotebookCheck.Json

open Number Text

/-- What can follow a value: the end of the text, a comma, or the end of a list or an object. -/
def EndsValue (behind : List UInt8) : Prop :=
  behind = [] ∨ ∃ ch ∈ [',', ']', '\x7d'], ∃ rest, behind = Cursor.byte ch :: rest

/-- A whole number that is read as such: it fits 64 bits, with a sign if it is negative and without
one otherwise. -/
def IsLong (n : ℤ) : Prop := -(Nat.pow 2 63 : ℕ) ≤ n ∧ n ≤ (maxDigits : ℕ)

theorem toNat_lt_of_isDigit {d : Char} (h : d.isDigit) : d.toNat < 0x80 := by
  have hmost := ((isDigit_iff_toNat d).mp h).2
  have hnine : '9'.toNat = 57 := rfl
  omega

theorem nextIsDigit_cons {ch : Char} (h : ch.toNat < 0x80) {c : Cursor} {rest : List UInt8}
    (hc : c.rest = Cursor.byte ch :: rest) : c.nextIsDigit = ch.isDigit := by
  rw [Bool.eq_iff_iff, isDigit_iff_toNat, Cursor.nextIsDigit, hc]
  simp [UInt8.le_iff_toNat_le, toNat_byte, h]

section EndsValue

variable {behind : List UInt8}

theorem EndsValue.nextIsDigit (h : EndsValue behind) {c : Cursor} (hc : c.rest = behind) :
    c.nextIsDigit = false := by
  obtain rfl | ⟨ch, hch, rest, rfl⟩ := h
  · simp [Cursor.nextIsDigit, hc]
  · fin_cases hch <;> rw [nextIsDigit_cons (by decide) hc] <;> rfl

theorem EndsValue.takes_peek (h : EndsValue behind) :
    ∃ next, Takes Reading.peek behind behind next ∧ next ≠ some '.' ∧
      isExponentMark next = false := by
  obtain rfl | ⟨ch, hch, rest, rfl⟩ := h
  · exact ⟨none, takes_peek_end, by decide, rfl⟩
  · refine ⟨some ch, Json.takes_peek ch ?_ rest, ?_, ?_⟩ <;> fin_cases hch <;> decide

theorem takes_digits {ds : List Char} (h : ∀ d ∈ ds, d.isDigit) (hend : EndsValue behind)
    {fuel : ℕ} (hfuel : ds.length ≤ fuel) :
    Takes (digits fuel) (ds.map Cursor.byte ++ behind) behind
      (ds.map fun d => d.toNat - '0'.toNat) := by
  induction ds generalizing fuel with
  | nil =>
      cases fuel with
      | zero => exact .pure [] behind
      | succ fuel =>
          refine .get_bind fun c hc => ?_
          have hno := hend.nextIsDigit hc
          split
          · exact .pure [] behind
          · simp only [hno, Bool.false_eq_true, if_false]
            exact .pure [] behind
  | cons d ds ih =>
      obtain ⟨hd, hds⟩ := List.forall_mem_cons.mp h
      obtain ⟨fuel, rfl⟩ := Nat.exists_eq_add_one_of_ne_zero (Nat.ne_zero_of_lt hfuel)
      have hascii := toNat_lt_of_isDigit hd
      refine .get_bind fun c hc => ?_
      rw [List.map_cons, List.cons_append] at hc
      simp only [hc, nextIsDigit_cons hascii hc, hd, if_true, toNat_byte hascii]
      exact (takes_step _ _).bind ((ih hds (by simpa using hfuel)).bind (.pure _ _))

theorem takes_allDigits {ds : List Char} (h : ∀ d ∈ ds, d.isDigit) (hend : EndsValue behind) :
    Takes allDigits (ds.map Cursor.byte ++ behind) behind
      (ds.map fun d => d.toNat - '0'.toNat) := by
  refine .get_bind fun c hc => takes_digits h hend ?_
  rw [hc]
  simp

end EndsValue

theorem le_foldl_digits (ds : List ℕ) (m : ℕ) : m ≤ ds.foldl (fun n d => n * 10 + d) m := by
  induction ds generalizing m with
  | nil => exact Nat.le_refl m
  | cons d ds ih => exact Nat.le_trans (by omega) (ih (m * 10 + d))

theorem gather_of_le {ds : List ℕ} {m : ℕ}
    (h : ds.foldl (fun n d => n * 10 + d) m ≤ maxDigits) :
    gather m ds = (ds.foldl (fun n d => n * 10 + d) m, 0) := by
  induction ds generalizing m with
  | nil => rfl
  | cons d ds ih =>
      -- The number only grows, so if it fits in the end it fits all the way.
      have hm : ¬ maxDigits < m * 10 + d :=
        Nat.not_lt.mpr (Nat.le_trans (le_foldl_digits ds (m * 10 + d)) h)
      rw [gather, if_neg hm, ih h]
      rfl

theorem gather_toDigits {n : ℕ} (h : n ≤ maxDigits) :
    gather 0 ((Nat.toDigits 10 n).map fun d => d.toNat - '0'.toNat) = (n, 0) := by
  have hfold : ((Nat.toDigits 10 n).map fun d => d.toNat - '0'.toNat).foldl
      (fun n d => n * 10 + d) 0 = n := by
    calc
      _ = Nat.ofDigitChars 10 (Nat.toDigits 10 n) 0 := by
        simp only [List.foldl_map, Nat.ofDigitChars, Nat.mul_comm]
      _ = n := Nat.ofDigitChars_ten_toDigits
  rw [gather_of_le (by rwa [hfold]), hfold]

section Numbers

variable {behind : List UInt8} {negative : Bool} {n : ℕ}

theorem takes_afterDigits (h : EndsValue behind)
    (hn : negative = true → n ≠ 0 ∧ n ≤ Nat.pow 2 63) :
    Takes (afterDigits negative n 0) behind behind (.int (if negative then -n else n)) := by
  obtain ⟨next, hpeek, hpoint, hmark⟩ := h.takes_peek
  refine hpeek.bind ?_
  split
  · exact absurd rfl hpoint
  · rw [hmark]
    cases negative with
    | false => exact .pure _ behind
    | true =>
        obtain ⟨hzero, hmost⟩ := hn rfl
        have hlong : (n = 0 || Nat.pow 2 63 < n) = false := by simpa [hzero] using hmost
        simp only [hlong]
        exact .pure _ behind

theorem takes_unsigned (h : EndsValue behind) (hmost : n ≤ maxDigits)
    (hn : negative = true → n ≠ 0 ∧ n ≤ Nat.pow 2 63) :
    Takes (unsigned negative) ((Nat.toDigits 10 n).map Cursor.byte ++ behind) behind
      (.int (if negative then -n else n)) := by
  by_cases hzero : n = 0
  · subst hzero
    rw [Nat.toDigits_zero]
    refine (takes_peek '0' (by decide) behind).bind ((takes_step _ behind).bind ?_)
    refine .get_bind fun c hc => ?_
    simp only [h.nextIsDigit hc, Bool.false_eq_true, if_false]
    exact takes_afterDigits h hn
  · have hgather := gather_toDigits hmost
    have hhead := head?_toDigits_ne_zero hzero
    obtain ⟨d, ds, hds, hdigits⟩ := exists_toDigits_eq_cons n
    have hd : d.isDigit := hdigits d (by simp)
    rw [hds] at hgather hhead ⊢
    refine (takes_peek d (toNat_lt_of_isDigit hd) _).bind ?_
    split
    · next heq => exact absurd heq (by simp)
    · next heq => exact absurd heq hhead
    · next heq =>
      obtain rfl := Option.some.inj heq
      simp only [hd, if_true]
      refine (takes_allDigits hdigits h).bind ?_
      simp only [hgather]
      exact takes_afterDigits h hn

end Numbers

theorem encode_repr (n : ℕ) : Utf8.encode n.repr = (Nat.toDigits 10 n).map Cursor.byte := by
  rw [Utf8.encode, Nat.toList_repr]
  exact flatMap_encodeChar_of_ascii fun d hd =>
    toNat_lt_of_isDigit (Nat.isDigit_of_mem_toDigits (by decide) (by decide) hd)

theorem encode_minus_append (s : String) :
    Utf8.encode ("-" ++ s) = Cursor.byte '-' :: Utf8.encode s := by
  rw [Utf8.encode_append]
  rfl

theorem exists_encode_toString_eq_cons (n : ℤ) :
    ∃ ch rest, Utf8.encode (toString n) = Cursor.byte ch :: rest ∧ (ch = '-' ∨ ch.isDigit) := by
  cases n with
  | ofNat m =>
      obtain ⟨d, ds, hds, hdigits⟩ := exists_toDigits_eq_cons m
      refine ⟨d, ds.map Cursor.byte, ?_, .inr (hdigits d (by simp))⟩
      change Utf8.encode m.repr = _
      rw [encode_repr, hds, List.map_cons]
  | negSucc m => exact ⟨'-', Utf8.encode (m + 1).repr, encode_minus_append _, .inl rfl⟩

theorem takes_numeral {n : ℤ} (hn : IsLong n) {behind : List UInt8} (h : EndsValue behind) :
    Takes numeral (Utf8.encode (toString n) ++ behind) behind (.int n) := by
  obtain ⟨hleast, hmost⟩ := hn
  cases n with
  | ofNat m =>
      have hunsigned : Takes (unsigned false) ((Nat.toDigits 10 m).map Cursor.byte ++ behind) behind
          (.int m) := takes_unsigned h (Int.ofNat_le.mp hmost) (by simp)
      obtain ⟨d, ds, hds, hdigits⟩ := exists_toDigits_eq_cons m
      have hd : d.isDigit := hdigits d (by simp)
      have hminus : some d ≠ some '-' := by
        intro heq
        rw [Option.some.inj heq] at hd
        exact absurd hd (by decide)
      change Takes numeral (Utf8.encode m.repr ++ behind) behind _
      rw [encode_repr]
      rw [hds] at hunsigned ⊢
      refine (takes_peek d (toNat_lt_of_isDigit hd) _).bind ?_
      rw [if_neg hminus]
      exact hunsigned
  | negSucc m =>
      have hm : m + 1 ≤ Nat.pow 2 63 := by
        rw [Int.negSucc_eq] at hleast
        omega
      have hunsigned : Takes (unsigned true) ((Nat.toDigits 10 (m + 1)).map Cursor.byte ++ behind)
          behind (.int (Int.negSucc m)) :=
        takes_unsigned h (Nat.le_trans hm (by decide)) fun _ => ⟨by omega, hm⟩
      change Takes numeral (Utf8.encode ("-" ++ (m + 1).repr) ++ behind) behind _
      rw [encode_minus_append, encode_repr]
      exact (takes_peek '-' (by decide) _).bind ((takes_step _ _).bind hunsigned)

end NotebookCheck.Json

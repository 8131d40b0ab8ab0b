import Mathlib.Data.List.Basic
import NotebookCheck.Text.Unicode

namespace NotebookCheck.Text.Utf8

def follows (lead b : UInt8) : Bool :=
  (secondRange lead).1 ≤ b && b ≤ (secondRange lead).2

/-- Each byte is in its range after a first byte, and there are not too many of them. -/
def fits (lead : UInt8) (tail : List UInt8) : Bool :=
  tail.length < announcedWidth lead &&
    match tail with
    | [] => true
    | b :: rest => follows lead b && rest.all isContinuation

theorem announcedWidth_toNat (lead : UInt8) :
    announcedWidth lead =
      if lead.toNat < 0x80 then 1
      else if 0xC2 ≤ lead.toNat ∧ lead.toNat ≤ 0xDF then 2
      else if 0xE0 ≤ lead.toNat ∧ lead.toNat ≤ 0xEF then 3
      else if 0xF0 ≤ lead.toNat ∧ lead.toNat ≤ 0xF4 then 4
      else 0 := by
  simp [announcedWidth, UInt8.lt_iff_toNat_lt, UInt8.le_iff_toNat_le]

theorem announcedWidth_eq_one_iff (lead : UInt8) :
    announcedWidth lead = 1 ↔ lead.toNat < 0x80 := by
  rw [announcedWidth_toNat]
  grind

theorem announcedWidth_eq_two_iff (lead : UInt8) :
    announcedWidth lead = 2 ↔ 0xC2 ≤ lead.toNat ∧ lead.toNat ≤ 0xDF := by
  rw [announcedWidth_toNat]
  grind

theorem announcedWidth_eq_three_iff (lead : UInt8) :
    announcedWidth lead = 3 ↔ 0xE0 ≤ lead.toNat ∧ lead.toNat ≤ 0xEF := by
  rw [announcedWidth_toNat]
  grind

theorem announcedWidth_eq_four_iff (lead : UInt8) :
    announcedWidth lead = 4 ↔ 0xF0 ≤ lead.toNat ∧ lead.toNat ≤ 0xF4 := by
  rw [announcedWidth_toNat]
  grind

theorem announcedWidth_le_four (lead : UInt8) : announcedWidth lead ≤ 4 := by
  rw [announcedWidth_toNat]
  split_ifs <;> decide

theorem isContinuation_iff (b : UInt8) :
    isContinuation b = true ↔ 0x80 ≤ b.toNat ∧ b.toNat ≤ 0xBF := by
  simp [isContinuation, UInt8.le_iff_toNat_le]

theorem follows_iff (lead b : UInt8) :
    follows lead b = true ↔ isContinuation b = true ∧
      (lead.toNat = 0xE0 → 0xA0 ≤ b.toNat) ∧ (lead.toNat = 0xED → b.toNat ≤ 0x9F) ∧
      (lead.toNat = 0xF0 → 0x90 ≤ b.toNat) ∧ (lead.toNat = 0xF4 → b.toNat ≤ 0x8F) := by
  rw [isContinuation_iff]
  unfold follows secondRange
  split_ifs <;> simp_all [← UInt8.toNat_inj, UInt8.le_iff_toNat_le] <;> omega

theorem announcedWidth_of_isContinuation {b : UInt8} (h : isContinuation b = true) :
    announcedWidth b = 0 := by
  rw [isContinuation_iff] at h
  rw [announcedWidth_toNat]
  split_ifs <;> omega

theorem toNat_ofNat_of_isValidChar {n : ℕ} (h : n.isValidChar) : (Char.ofNat n).toNat = n := by
  rw [Char.ofNat, dif_pos h]
  rfl

theorem toNat_toUInt8_of_lt {n : ℕ} (h : n < 256) : n.toUInt8.toNat = n := by
  rw [Nat.toUInt8_eq, UInt8.toNat_ofNat']
  exact Nat.mod_eq_of_lt h

theorem toNat_low (n : ℕ) : (0x80 + n % 64).toUInt8.toNat = 0x80 + n % 64 :=
  toNat_toUInt8_of_lt (by omega)

theorem isContinuation_low (n : ℕ) : isContinuation (0x80 + n % 64).toUInt8 = true := by
  rw [isContinuation_iff, toNat_low]
  omega

theorem fits_nil (lead : UInt8) : fits lead [] = true ↔ announcedWidth lead ≠ 0 := by
  simp [fits, Nat.pos_iff_ne_zero]

theorem fits_cons (lead b : UInt8) (rest : List UInt8) :
    fits lead (b :: rest) = true ↔
      rest.length + 1 < announcedWidth lead ∧ follows lead b = true ∧
        ∀ x ∈ rest, isContinuation x = true := by
  simp [fits]

theorem length_lt_of_fits {lead : UInt8} {tail : List UInt8} (h : fits lead tail = true) :
    tail.length < announcedWidth lead := by
  unfold fits at h
  rw [Bool.and_eq_true] at h
  exact of_decide_eq_true h.1

theorem isContinuation_of_fits {lead b : UInt8} {tail : List UInt8}
    (h : fits lead tail = true) (hb : b ∈ tail) : isContinuation b = true := by
  cases tail with
  | nil => cases hb
  | cons second rest =>
      rw [fits_cons] at h
      rcases List.mem_cons.mp hb with rfl | hrest
      · exact ((follows_iff lead b).mp h.2.1).1
      · exact h.2.2 b hrest

theorem encodeChar_fits (c : Char) :
    ∃ lead tail, encodeChar c = lead :: tail ∧ fits lead tail = true ∧
      tail.length + 1 = announcedWidth lead := by
  have hvalid : c.toNat < 0xD800 ∨ 0xDFFF < c.toNat ∧ c.toNat < 0x110000 := c.valid
  unfold encodeChar
  generalize c.toNat = n at hvalid
  dsimp only
  split_ifs with h1 h2 h3
  · have hlead := toNat_toUInt8_of_lt (n := n) (by omega)
    have hwidth : announcedWidth n.toUInt8 = 1 := by
      rw [announcedWidth_eq_one_iff, hlead]
      omega
    refine ⟨_, _, rfl, ?_, hwidth.symm⟩
    rw [fits_nil, hwidth]
    decide
  · have hlead := toNat_toUInt8_of_lt (n := 0xC0 + n / 64) (by omega)
    have hwidth : announcedWidth (0xC0 + n / 64).toUInt8 = 2 := by
      rw [announcedWidth_eq_two_iff, hlead]
      omega
    refine ⟨_, _, rfl, ?_, hwidth.symm⟩
    rw [fits_cons, hwidth, follows_iff, hlead, toNat_low]
    exact ⟨Nat.lt_add_one 1, ⟨isContinuation_low _, by omega⟩, List.forall_mem_nil _⟩
  · have hlead := toNat_toUInt8_of_lt (n := 0xE0 + n / 4096) (by omega)
    have hwidth : announcedWidth (0xE0 + n / 4096).toUInt8 = 3 := by
      rw [announcedWidth_eq_three_iff, hlead]
      omega
    refine ⟨_, _, rfl, ?_, hwidth.symm⟩
    rw [fits_cons, hwidth, follows_iff, hlead, toNat_low]
    exact ⟨Nat.lt_add_one 2, ⟨isContinuation_low _, by omega⟩,
      List.forall_mem_singleton.mpr (isContinuation_low _)⟩
  · have hlead := toNat_toUInt8_of_lt (n := 0xF0 + n / 262144) (by omega)
    have hwidth : announcedWidth (0xF0 + n / 262144).toUInt8 = 4 := by
      rw [announcedWidth_eq_four_iff, hlead]
      omega
    refine ⟨_, _, rfl, ?_, hwidth.symm⟩
    rw [fits_cons, hwidth, follows_iff, hlead, toNat_low]
    exact ⟨Nat.lt_add_one 3, ⟨isContinuation_low _, by omega⟩,
      List.forall_mem_cons.mpr
        ⟨isContinuation_low _, List.forall_mem_singleton.mpr (isContinuation_low _)⟩⟩

theorem toUInt8_eq_of_toNat {n : ℕ} {b : UInt8} (h : n = b.toNat) : n.toUInt8 = b := by
  rw [← UInt8.toNat_inj, h, toNat_toUInt8_of_lt b.toNat_lt]

section Front

variable {lead : UInt8}

theorem front_of_unannounced (h : announcedWidth lead = 0) (rest : List UInt8) :
    front lead rest = .invalid 1 := by
  simp only [front, h]

theorem front_one (hwidth : announcedWidth lead = 1) :
    ∃ c, encodeChar c = [lead] ∧ ∀ rest, front lead rest = .scalar c 1 := by
  refine ⟨Char.ofNat lead.toNat, ?_, ?_⟩
  · rw [announcedWidth_eq_one_iff] at hwidth
    rw [encodeChar, toNat_ofNat_of_isValidChar (.inl (by omega)), if_pos hwidth,
      toUInt8_eq_of_toNat rfl]
  · intro rest
    simp only [front, hwidth]

theorem front_two {b : UInt8} (hwidth : announcedWidth lead = 2)
    (hb : follows lead b = true) :
    ∃ c, encodeChar c = [lead, b] ∧ ∀ rest, front lead (b :: rest) = .scalar c 2 := by
  refine ⟨Char.ofNat (lead.toNat % 32 * 64 + payload b), ?_, ?_⟩
  · rw [announcedWidth_eq_two_iff] at hwidth
    rw [follows_iff, isContinuation_iff] at hb
    have hn : lead.toNat % 32 * 64 + payload b =
        (lead.toNat - 0xC0) * 64 + (b.toNat - 0x80) := by
      simp only [payload]
      omega
    rw [encodeChar, toNat_ofNat_of_isValidChar (by simp only [Nat.isValidChar]; omega), hn,
      if_neg (by omega), if_pos (by omega), toUInt8_eq_of_toNat (b := lead) (by omega),
      toUInt8_eq_of_toNat (b := b) (by omega)]
  · intro rest
    rw [follows] at hb
    simp only [front, hwidth, hb, if_pos]

theorem front_three {b c : UInt8} (hwidth : announcedWidth lead = 3)
    (hb : follows lead b = true) (hc : isContinuation c = true) :
    ∃ x, encodeChar x = [lead, b, c] ∧ ∀ rest, front lead (b :: c :: rest) = .scalar x 3 := by
  refine ⟨Char.ofNat ((lead.toNat % 16 * 64 + payload b) * 64 + payload c), ?_, ?_⟩
  · rw [announcedWidth_eq_three_iff] at hwidth
    rw [follows_iff, isContinuation_iff] at hb
    rw [isContinuation_iff] at hc
    have hn : (lead.toNat % 16 * 64 + payload b) * 64 + payload c =
        (lead.toNat - 0xE0) * 4096 + (b.toNat - 0x80) * 64 + (c.toNat - 0x80) := by
      simp only [payload]
      omega
    rw [encodeChar, toNat_ofNat_of_isValidChar (by simp only [Nat.isValidChar]; omega), hn,
      if_neg (by omega), if_neg (by omega), if_pos (by omega),
      toUInt8_eq_of_toNat (b := lead) (by omega), toUInt8_eq_of_toNat (b := b) (by omega),
      toUInt8_eq_of_toNat (b := c) (by omega)]
  · intro rest
    rw [follows] at hb
    simp only [front, hwidth, hb, hc, Bool.not_true, Bool.false_eq_true, if_false, if_true]

theorem front_four {b c d : UInt8} (hwidth : announcedWidth lead = 4)
    (hb : follows lead b = true) (hc : isContinuation c = true) (hd : isContinuation d = true) :
    ∃ x, encodeChar x = [lead, b, c, d] ∧
      ∀ rest, front lead (b :: c :: d :: rest) = .scalar x 4 := by
  refine ⟨Char.ofNat
    (((lead.toNat % 8 * 64 + payload b) * 64 + payload c) * 64 + payload d), ?_, ?_⟩
  · rw [announcedWidth_eq_four_iff] at hwidth
    rw [follows_iff, isContinuation_iff] at hb
    rw [isContinuation_iff] at hc hd
    have hn : ((lead.toNat % 8 * 64 + payload b) * 64 + payload c) * 64 + payload d =
        (lead.toNat - 0xF0) * 262144 + (b.toNat - 0x80) * 4096 + (c.toNat - 0x80) * 64 +
          (d.toNat - 0x80) := by
      simp only [payload]
      omega
    rw [encodeChar, toNat_ofNat_of_isValidChar (by simp only [Nat.isValidChar]; omega), hn,
      if_neg (by omega), if_neg (by omega), if_neg (by omega),
      toUInt8_eq_of_toNat (b := lead) (by omega), toUInt8_eq_of_toNat (b := b) (by omega),
      toUInt8_eq_of_toNat (b := c) (by omega), toUInt8_eq_of_toNat (b := d) (by omega)]
  · intro rest
    rw [follows] at hb
    simp only [front, hwidth, hb, hc, hd, Bool.not_true, Bool.false_eq_true, if_false, if_true]

theorem front_of_fits {tail : List UInt8} (h : fits lead tail = true)
    (hwidth : tail.length + 1 = announcedWidth lead) :
    ∃ c, encodeChar c = lead :: tail ∧
      ∀ rest, front lead (tail ++ rest) = .scalar c (tail.length + 1) := by
  have hle := announcedWidth_le_four lead
  match tail with
  | [] => exact front_one hwidth.symm
  | [b] =>
      rw [fits_cons] at h
      exact front_two hwidth.symm h.2.1
  | [b, c] =>
      rw [fits_cons] at h
      exact front_three hwidth.symm h.2.1 (h.2.2 c (by simp))
  | [b, c, d] =>
      rw [fits_cons] at h
      exact front_four hwidth.symm h.2.1 (h.2.2 c (by simp)) (h.2.2 d (by simp))
  | b :: c :: d :: e :: more =>
      simp only [List.length_cons] at hwidth
      omega

theorem front_of_unfinished {tail : List UInt8} (h : fits lead tail = true)
    (hwidth : tail.length + 1 < announcedWidth lead) :
    front lead tail = .truncated (tail.length + 1) := by
  have hle := announcedWidth_le_four lead
  match tail with
  | [] =>
      rw [List.length_nil] at hwidth
      obtain hw | hw | hw : announcedWidth lead = 2 ∨ announcedWidth lead = 3 ∨
        announcedWidth lead = 4 := by omega
      all_goals simp only [front, hw, List.length_nil]
  | [b] =>
      rw [List.length_singleton] at hwidth
      rw [fits_cons, follows] at h
      obtain hw | hw : announcedWidth lead = 3 ∨ announcedWidth lead = 4 := by omega
      all_goals simp only [front, hw, h, Bool.not_true, Bool.false_eq_true, if_false,
        List.length_singleton]
  | [b, c] =>
      have hw : announcedWidth lead = 4 := by
        simp only [List.length_cons, List.length_nil] at hwidth
        omega
      rw [fits_cons, follows] at h
      simp only [front, hw, h, h.2.2 c (by simp), Bool.not_true, Bool.false_eq_true, if_false,
        List.length_cons, List.length_nil]
  | b :: c :: d :: more =>
      simp only [List.length_cons] at hwidth
      omega

theorem front_of_broken {tail : List UInt8} {next : UInt8} (h : fits lead tail = true)
    (hwidth : tail.length + 1 < announcedWidth lead) (hnext : fits lead (tail ++ [next]) = false)
    (rest : List UInt8) :
    front lead (tail ++ next :: rest) = .invalid (tail.length + 1) := by
  have hle := announcedWidth_le_four lead
  match tail with
  | [] =>
      rw [List.length_nil] at hwidth
      have hfollows : follows lead next = false := by
        simpa [fits, hwidth] using hnext
      rw [follows] at hfollows
      obtain hw | hw | hw : announcedWidth lead = 2 ∨ announcedWidth lead = 3 ∨
        announcedWidth lead = 4 := by omega
      all_goals simp [front, hw, hfollows]
  | [b] =>
      rw [List.length_singleton] at hwidth
      rw [fits_cons] at h
      have hcontinues : isContinuation next = false := by
        simpa [fits, hwidth, h] using hnext
      rw [follows] at h
      obtain hw | hw : announcedWidth lead = 3 ∨ announcedWidth lead = 4 := by omega
      all_goals simp [front, hw, h.2.1, hcontinues]
  | [b, c] =>
      have hw : announcedWidth lead = 4 := by
        simp only [List.length_cons, List.length_nil] at hwidth
        omega
      rw [fits_cons] at h
      have hc := h.2.2 c (by simp)
      have hcontinues : isContinuation next = false := by
        simpa [fits, hw, h, hc] using hnext
      rw [follows] at h
      simp [front, hw, h.2.1, hc, hcontinues]
  | b :: c :: d :: more =>
      simp only [List.length_cons] at hwidth
      omega

end Front

theorem fits_of_append {lead : UInt8} {tail more : List UInt8}
    (h : fits lead (tail ++ more) = true) : fits lead tail = true := by
  cases tail with
  | nil =>
      rw [fits_nil]
      intro hzero
      simp [fits, hzero] at h
  | cons b rest =>
      rw [List.cons_append, fits_cons] at h
      rw [fits_cons]
      refine ⟨?_, h.2.1, fun x hx => h.2.2 x (List.mem_append_left _ hx)⟩
      have hlength := h.1
      rw [List.length_append] at hlength
      omega

theorem follows_least (lead : UInt8) : follows lead (secondRange lead).1 = true := by
  unfold follows secondRange
  split_ifs <;> decide

theorem exists_completion {lead : UInt8} {tail : List UInt8} (h : fits lead tail = true) :
    ∃ more, fits lead (tail ++ more) = true ∧
      (tail ++ more).length + 1 = announcedWidth lead := by
  cases tail with
  | nil =>
      rw [fits_nil] at h
      by_cases hone : announcedWidth lead = 1
      · exact ⟨[], by simp [fits, hone], hone.symm⟩
      · refine ⟨(secondRange lead).1 :: List.replicate (announcedWidth lead - 2) 0x80, ?_, ?_⟩
        · rw [List.nil_append, fits_cons]
          refine ⟨?_, follows_least lead, fun x hx => ?_⟩
          · rw [List.length_replicate]
            omega
          · rw [List.eq_of_mem_replicate hx]
            rfl
        · simp only [List.nil_append, List.length_cons, List.length_replicate]
          omega
  | cons b rest =>
      rw [fits_cons] at h
      refine ⟨List.replicate (announcedWidth lead - (rest.length + 2)) 0x80, ?_, ?_⟩
      · rw [List.cons_append, fits_cons]
        refine ⟨?_, h.2.1, fun x hx => ?_⟩
        · rw [List.length_append, List.length_replicate]
          omega
        · rcases List.mem_append.mp hx with hrest | hmore
          · exact h.2.2 x hrest
          · rw [List.eq_of_mem_replicate hmore]
            rfl
      · simp only [List.cons_append, List.length_cons, List.length_append, List.length_replicate]
        omega

theorem fits_iff_exists_encodeChar (lead : UInt8) (tail : List UInt8) :
    fits lead tail = true ↔ ∃ c, lead :: tail <+: encodeChar c := by
  constructor
  · intro h
    obtain ⟨more, hfits, hwidth⟩ := exists_completion h
    obtain ⟨c, hc, -⟩ := front_of_fits hfits hwidth
    exact ⟨c, more, hc.symm⟩
  · rintro ⟨c, more, hmore⟩
    obtain ⟨first, others, hc, hfits, -⟩ := encodeChar_fits c
    rw [hc, List.cons_append, List.cons.injEq] at hmore
    obtain ⟨rfl, rfl⟩ := hmore
    exact fits_of_append hfits

theorem encodeChar_of_lt {c : Char} (h : c.toNat < 0x80) : encodeChar c = [c.toNat.toUInt8] := by
  simp [encodeChar, h]

theorem le_toNat_of_mem_encodeChar {c : Char} (h : 0x80 ≤ c.toNat) {b : UInt8}
    (hb : b ∈ encodeChar c) : 0x80 ≤ b.toNat := by
  have hvalid : c.toNat < 0xD800 ∨ 0xDFFF < c.toNat ∧ c.toNat < 0x110000 := c.valid
  unfold encodeChar at hb
  dsimp only at hb
  split_ifs at hb
  · omega
  · simp only [List.mem_cons, List.not_mem_nil, or_false] at hb
    obtain rfl | rfl := hb <;> rw [toNat_toUInt8_of_lt] <;> omega
  · simp only [List.mem_cons, List.not_mem_nil, or_false] at hb
    obtain rfl | rfl | rfl := hb <;> rw [toNat_toUInt8_of_lt] <;> omega
  · simp only [List.mem_cons, List.not_mem_nil, or_false] at hb
    obtain rfl | rfl | rfl | rfl := hb <;> rw [toNat_toUInt8_of_lt] <;> omega

theorem toUInt8_inj {m n : ℕ} (hm : m < 256) (hn : n < 256) (h : m.toUInt8 = n.toUInt8) :
    m = n := by
  rw [← toNat_toUInt8_of_lt hm, h, toNat_toUInt8_of_lt hn]

theorem low_inj {m n : ℕ} (h : (0x80 + m % 64).toUInt8 = (0x80 + n % 64).toUInt8) :
    m % 64 = n % 64 := by
  have hsum := toUInt8_inj (by omega) (by omega) h
  omega

theorem encodeChar_injective : Function.Injective encodeChar := by
  intro c d h
  have hc : c.toNat < 0xD800 ∨ 0xDFFF < c.toNat ∧ c.toNat < 0x110000 := c.valid
  have hd : d.toNat < 0xD800 ∨ 0xDFFF < d.toNat ∧ d.toNat < 0x110000 := d.valid
  apply Char.toNat_inj.mp
  unfold encodeChar at h
  generalize c.toNat = m at h hc ⊢
  generalize d.toNat = n at h hd ⊢
  dsimp only at h
  -- Only characters of the same width have bytes of the same number.
  split_ifs at h <;> simp only [List.cons.injEq, reduceCtorEq, and_false, and_true] at h
  · exact toUInt8_inj (by omega) (by omega) h
  · have hlead := toUInt8_inj (by omega) (by omega) h.1
    have hlow := low_inj h.2
    omega
  · have hlead := toUInt8_inj (by omega) (by omega) h.1
    have hmiddle := low_inj h.2.1
    have hlow := low_inj h.2.2
    omega
  · have hlead := toUInt8_inj (by omega) (by omega) h.1
    have hsecond := low_inj h.2.1
    have hthird := low_inj h.2.2.1
    have hlow := low_inj h.2.2.2
    omega

theorem front_encodeChar (c : Char) :
    ∃ lead tail, encodeChar c = lead :: tail ∧
      ∀ rest, front lead (tail ++ rest) = .scalar c (tail.length + 1) := by
  obtain ⟨lead, tail, hc, hfits, hwidth⟩ := encodeChar_fits c
  obtain ⟨d, hd, hfront⟩ := front_of_fits hfits hwidth
  obtain rfl : d = c := encodeChar_injective (hd.trans hc.symm)
  exact ⟨lead, tail, hc, hfront⟩

theorem decodeFrom_flatMap_encodeChar (cs : List Char) (index : ℕ) :
    decodeFrom index (cs.flatMap encodeChar) = .ok cs := by
  induction cs generalizing index with
  | nil => simp [decodeFrom]
  | cons c cs ih =>
      obtain ⟨lead, tail, hc, hfront⟩ := front_encodeChar c
      rw [List.flatMap_cons, hc, List.cons_append, decodeFrom, hfront]
      simp [ih, Except.map]

theorem decode_encode (s : String) : decode (encode s) = .ok s := by
  simp [decode, encode, decodeFrom_flatMap_encodeChar, Except.map]

theorem encode_append (s t : String) : encode (s ++ t) = encode s ++ encode t := by
  simp [encode]

end NotebookCheck.Text.Utf8

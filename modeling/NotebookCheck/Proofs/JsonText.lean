import NotebookCheck.Json.Layout
import NotebookCheck.Json.Skip
import NotebookCheck.Proofs.Utf8

namespace NotebookCheck.Json

open Text

/-- From any place where the bytes in front come next, the reader goes on to a place where the bytes
behind come next, and gives the value. -/
def Takes {α : Type} (r : Reading α) (front behind : List UInt8) (a : α) : Prop :=
  ∀ c : Cursor, c.rest = front → ∃ d : Cursor, d.rest = behind ∧ r c = .ok (a, d)

section Takes

variable {α β : Type} {front middle behind : List UInt8} {a : α} {b : β}

theorem Takes.pure (a : α) (front : List UInt8) : Takes (pure a) front front a :=
  fun c hc => ⟨c, hc, rfl⟩

theorem Takes.bind {r : Reading α} {f : α → Reading β} (hr : Takes r front middle a)
    (hf : Takes (f a) middle behind b) : Takes (r >>= f) front behind b := by
  intro c hc
  obtain ⟨d, hd, hrun⟩ := hr c hc
  obtain ⟨e, he, hnext⟩ := hf d hd
  refine ⟨e, he, ?_⟩
  change (r c >>= fun p => f p.1 p.2) = _
  rw [hrun]
  exact hnext

theorem Takes.get_bind {f : Cursor → Reading β}
    (h : ∀ c : Cursor, c.rest = front → Takes (f c) front behind b) :
    Takes (get >>= f) front behind b :=
  fun c hc => h c hc c hc

theorem takes_set (c : Cursor) (front : List UInt8) : Takes (set c) front c.rest () :=
  fun _ _ => ⟨c, rfl, rfl⟩

theorem rest_step (c : Cursor) : c.step.rest = c.rest.drop 1 := by
  unfold Cursor.step
  split
  · next h => rw [h]; rfl
  · next h => rw [h]; split <;> rfl

theorem rest_steps (n : ℕ) (c : Cursor) : (c.steps n).rest = c.rest.drop n := by
  induction n generalizing c with
  | zero => rfl
  | succ n ih => rw [Cursor.steps, ih, rest_step, List.drop_drop, Nat.add_comm]

theorem takes_step (b : UInt8) (behind : List UInt8) :
    Takes Reading.step (b :: behind) behind () := by
  intro c hc
  refine ⟨c.step, ?_, rfl⟩
  rw [rest_step, hc]
  rfl

end Takes

theorem toNat_byte {ch : Char} (h : ch.toNat < 0x80) : (Cursor.byte ch).toNat = ch.toNat :=
  Utf8.toNat_toUInt8_of_lt (by omega)

theorem byte_inj {ch other : Char} (h : ch.toNat < 0x80) (hother : other.toNat < 0x80) :
    Cursor.byte ch = Cursor.byte other ↔ ch = other := by
  rw [← UInt8.toNat_inj, toNat_byte h, toNat_byte hother, Char.toNat_inj]

theorem ofNat_byte {ch : Char} (h : ch.toNat < 0x80) : Char.ofNat (Cursor.byte ch).toNat = ch := by
  rw [toNat_byte h, Char.ofNat_toNat]

theorem flatMap_encodeChar_of_ascii {cs : List Char} (h : ∀ ch ∈ cs, ch.toNat < 0x80) :
    cs.flatMap Utf8.encodeChar = cs.map Cursor.byte := by
  induction cs with
  | nil => rfl
  | cons ch cs ih =>
      obtain ⟨hch, hcs⟩ := List.forall_mem_cons.mp h
      rw [List.flatMap_cons, Utf8.encodeChar_of_lt hch, ih hcs]
      rfl

theorem takes_peek (ch : Char) (h : ch.toNat < 0x80) (behind : List UInt8) :
    Takes Reading.peek (Cursor.byte ch :: behind) (Cursor.byte ch :: behind) (some ch) := by
  intro c hc
  refine ⟨c, hc, ?_⟩
  simp [Reading.peek, hc, ofNat_byte h]

theorem takes_peek_end : Takes Reading.peek [] [] none := by
  intro c hc
  refine ⟨c, hc, ?_⟩
  simp [Reading.peek, hc]

theorem takes_next (ch : Char) (h : ch.toNat < 0x80) (behind : List UInt8) :
    Takes Reading.next (Cursor.byte ch :: behind) behind (some ch) :=
  (takes_peek ch h behind).bind ((takes_step _ behind).bind (.pure _ _))

theorem takes_word (cs : List Char) (h : ∀ ch ∈ cs, ch.toNat < 0x80) (behind : List UInt8) :
    Takes (Reading.word cs) (cs.map Cursor.byte ++ behind) behind () := by
  induction cs with
  | nil => exact .pure _ _
  | cons ch cs ih =>
      obtain ⟨hch, hcs⟩ := List.forall_mem_cons.mp h
      refine (takes_next ch hch _).bind ?_
      simpa using ih hcs

def IsSolid (ch : Char) : Prop := ch.toNat < 0x80 ∧ Cursor.isSpace (Cursor.byte ch) = false

instance (ch : Char) : Decidable (IsSolid ch) := inferInstanceAs (Decidable (_ ∧ _))

theorem takes_skipSpace {front : List UInt8} (h : front.takeWhile Cursor.isSpace = []) :
    Takes Reading.skipSpace front front () := by
  intro c hc
  refine ⟨c, hc, ?_⟩
  change Except.ok ((), c.skipSpace) = _
  rw [Cursor.skipSpace, hc, h]
  rfl

theorem takes_peekPastSpace (ch : Char) (h : IsSolid ch) (behind : List UInt8) :
    Takes Reading.peekPastSpace (Cursor.byte ch :: behind) (Cursor.byte ch :: behind) (some ch) :=
  (takes_skipSpace (by simp [h.2])).bind (takes_peek ch h.1 behind)

theorem takes_peekPastSpace_end : Takes Reading.peekPastSpace [] [] none :=
  (takes_skipSpace rfl).bind takes_peek_end

theorem hexValue?_hexDigit (n : ℕ) : Number.hexValue? (hexDigit n) = some (n % 16) := by
  have hall : ∀ k < 16, Number.hexValue? ((Nat.toDigits 16 k).headD '0') = some k := by decide
  exact hall (n % 16) (Nat.mod_lt n (by decide))

theorem toNat_hexDigit_lt (n : ℕ) : (hexDigit n).toNat < 0x80 := by
  have hall : ∀ k < 16, ((Nat.toDigits 16 k).headD '0').toNat < 0x80 := by decide
  exact hall (n % 16) (Nat.mod_lt n (by decide))

/-- ASCII characters that stand for a character after a backslash. -/
structure IsEscape (code : List Char) (c : Char) : Prop where
  ascii : ∀ ch ∈ code, ch.toNat < 0x80
  read : ∀ behind, Takes escape (code.map Cursor.byte ++ behind) behind c

theorem isEscape_letter {letter c : Char} (hascii : letter.toNat < 0x80) (hu : letter ≠ 'u')
    (h : simpleEscapes.lookup letter = some c) : IsEscape [letter] c where
  ascii := by simpa using hascii
  read behind := by
    refine (takes_next letter hascii behind).bind ?_
    simp only [h]
    exact .pure c behind

theorem takes_unit {n : ℕ} (h : n < 0x100) (behind : List UInt8) :
    Takes unit (['0', '0', hexDigit (n / 16), hexDigit n].map Cursor.byte ++ behind) behind n := by
  refine .get_bind fun c hc => ?_
  have hrest : (c.steps 4).rest = behind := by
    rw [rest_steps, hc]
    rfl
  have hzero : Number.hexValue? '0' = some 0 := by decide
  have hascii : '0'.toNat < 0x80 := by decide
  have hvalue : ((0 * 16 + 0) * 16 + n / 16 % 16) * 16 + n % 16 = n := by omega
  simp only [List.map_cons, List.map_nil, List.cons_append, List.nil_append] at hc ⊢
  simp only [hc, ofNat_byte hascii, ofNat_byte (toNat_hexDigit_lt _), hzero, hexValue?_hexDigit,
    hvalue]
  exact (hrest ▸ takes_set (c.steps 4) _).bind (.pure n behind)

theorem isEscape_code {c : Char} (h : c.toNat < 0x100) :
    IsEscape ['u', '0', '0', hexDigit (c.toNat / 16), hexDigit c.toNat] c where
  ascii := by simp [toNat_hexDigit_lt]
  read behind := by
    have htrailing : isTrailing c.toNat = false := by
      simp only [isTrailing, Bool.and_eq_false_iff, decide_eq_false_iff_not]
      omega
    have hleading : isLeading c.toNat = false := by
      simp only [isLeading, Bool.and_eq_false_iff, decide_eq_false_iff_not]
      omega
    refine (takes_next 'u' (by decide) _).bind ?_
    change Takes codePoint _ behind c
    refine (takes_unit h behind).bind ?_
    simp only [htrailing, hleading, Char.ofNat_toNat, Bool.false_eq_true, if_false]
    exact .pure c behind

theorem writtenChar_cases (c : Char) :
    (writtenChar c = [c] ∧ c ≠ '"' ∧ c ≠ '\\' ∧ 0x20 ≤ c.toNat) ∨
      ∃ code, writtenChar c = '\\' :: code ∧ IsEscape code c := by
  unfold writtenChar
  split_ifs with hquote hbackslash hnewline hreturn htab hback hfeed hcontrol
  · subst hquote
    exact .inr ⟨_, rfl, isEscape_letter (by decide) (by decide) rfl⟩
  · subst hbackslash
    exact .inr ⟨_, rfl, isEscape_letter (by decide) (by decide) rfl⟩
  · exact .inr ⟨_, rfl, hnewline ▸ isEscape_letter (by decide) (by decide) rfl⟩
  · exact .inr ⟨_, rfl, hreturn ▸ isEscape_letter (by decide) (by decide) rfl⟩
  · exact .inr ⟨_, rfl, htab ▸ isEscape_letter (by decide) (by decide) rfl⟩
  · exact .inr ⟨_, rfl, hback ▸ isEscape_letter (by decide) (by decide) rfl⟩
  · exact .inr ⟨_, rfl, hfeed ▸ isEscape_letter (by decide) (by decide) rfl⟩
  · exact .inr ⟨_, rfl, isEscape_code (by omega)⟩
  · exact .inl ⟨rfl, hquote, hbackslash, by omega⟩

def IsPlainByte (b : UInt8) : Prop :=
  b ≠ Cursor.byte '"' ∧ b ≠ Cursor.byte '\\' ∧ ¬ b < 0x20

theorem isPlainByte_of_mem_encodeChar {c : Char} (hquote : c ≠ '"') (hback : c ≠ '\\')
    (hcontrol : 0x20 ≤ c.toNat) {b : UInt8} (hb : b ∈ Utf8.encodeChar c) : IsPlainByte b := by
  have hspace : (0x20 : UInt8).toNat = 0x20 := rfl
  by_cases hascii : c.toNat < 0x80
  · rw [Utf8.encodeChar_of_lt hascii, List.mem_singleton] at hb
    obtain rfl : b = Cursor.byte c := hb
    refine ⟨?_, ?_, ?_⟩
    · rwa [Ne, byte_inj hascii (by decide)]
    · rwa [Ne, byte_inj hascii (by decide)]
    · rw [UInt8.lt_iff_toNat_lt, toNat_byte hascii]
      omega
  · have hb := Utf8.le_toNat_of_mem_encodeChar (by omega) hb
    refine ⟨?_, ?_, ?_⟩
    · rintro rfl
      exact absurd hb (by decide)
    · rintro rfl
      exact absurd hb (by decide)
    · rw [UInt8.lt_iff_toNat_lt]
      omega

section Bytes

variable {fuel : ℕ} {front behind out : List UInt8}

theorem takes_textBytes_end (fuel : ℕ) (behind : List UInt8) :
    Takes (textBytes (fuel + 1)) (Cursor.byte '"' :: behind) (Cursor.byte '"' :: behind) [] := by
  refine .get_bind fun c hc => ?_
  simp only [hc, if_true]
  exact .pure [] _

theorem takes_textBytes_plain {b : UInt8} (hb : IsPlainByte b)
    (h : Takes (textBytes fuel) front behind out) :
    Takes (textBytes (fuel + 1)) (b :: front) behind (b :: out) := by
  obtain ⟨hquote, hback, hcontrol⟩ := hb
  refine .get_bind fun c hc => ?_
  simp only [hc, hquote, hback, hcontrol, if_false]
  exact (takes_step b front).bind (h.bind (.pure _ _))

theorem takes_textBytes_plains {bs : List UInt8} (hbs : ∀ b ∈ bs, IsPlainByte b)
    (h : Takes (textBytes fuel) front behind out) :
    Takes (textBytes (bs.length + fuel)) (bs ++ front) behind (bs ++ out) := by
  induction bs with
  | nil => simpa using h
  | cons b bs ih =>
      obtain ⟨hb, hbs⟩ := List.forall_mem_cons.mp hbs
      rw [List.length_cons, Nat.succ_add]
      exact takes_textBytes_plain hb (ih hbs)

theorem takes_textBytes_escape {code : List Char} {c : Char} (hcode : IsEscape code c)
    (h : Takes (textBytes fuel) front behind out) :
    Takes (textBytes (fuel + 1)) (Cursor.byte '\\' :: (code.map Cursor.byte ++ front)) behind
      (Utf8.encodeChar c ++ out) := by
  have hquote : Cursor.byte '\\' ≠ Cursor.byte '"' := by decide
  refine .get_bind fun d hd => ?_
  simp only [hd, hquote, if_true, if_false]
  exact (takes_step _ _).bind ((hcode.read front).bind (h.bind (.pure _ _)))

end Bytes

def writtenBytes (c : Char) : List UInt8 := (writtenChar c).flatMap Utf8.encodeChar

theorem takes_textBytes (cs : List Char) (behind : List UInt8) {fuel : ℕ}
    (h : (cs.flatMap writtenBytes).length < fuel) :
    Takes (textBytes fuel) (cs.flatMap writtenBytes ++ Cursor.byte '"' :: behind)
      (Cursor.byte '"' :: behind) (cs.flatMap Utf8.encodeChar) := by
  induction cs generalizing fuel with
  | nil =>
      obtain ⟨fuel, rfl⟩ := Nat.exists_eq_add_one_of_ne_zero (Nat.ne_zero_of_lt h)
      exact takes_textBytes_end fuel behind
  | cons c cs ih =>
      rw [List.flatMap_cons, List.length_append] at h
      rw [List.flatMap_cons, List.flatMap_cons, List.append_assoc]
      -- A character uses up one of the fuel for each of its bytes, and an escape one altogether.
      rcases writtenChar_cases c with ⟨hc, hquote, hback, hcontrol⟩ | ⟨code, hc, hescape⟩
      · have hbytes : writtenBytes c = Utf8.encodeChar c := by simp [writtenBytes, hc]
        have hplain : ∀ b ∈ Utf8.encodeChar c, IsPlainByte b := fun b hb =>
          isPlainByte_of_mem_encodeChar hquote hback hcontrol hb
        rw [hbytes] at h ⊢
        obtain ⟨spare, rfl⟩ : ∃ spare, fuel = (Utf8.encodeChar c).length + spare :=
          Nat.exists_eq_add_of_le (by omega)
        exact takes_textBytes_plains hplain (ih (by omega))
      · have hbytes : writtenBytes c = Cursor.byte '\\' :: code.map Cursor.byte := by
          rw [writtenBytes, hc, List.flatMap_cons, flatMap_encodeChar_of_ascii hescape.ascii]
          rfl
        rw [hbytes, List.length_cons] at h
        obtain ⟨fuel, rfl⟩ := Nat.exists_eq_add_one_of_ne_zero (Nat.ne_zero_of_lt h)
        rw [hbytes, List.cons_append]
        exact takes_textBytes_escape hescape (ih (by omega))

theorem encode_writtenText (s : String) :
    Utf8.encode (writtenText s) =
      Cursor.byte '"' :: (s.toList.flatMap writtenBytes ++ [Cursor.byte '"']) := by
  have hquote : Utf8.encodeChar '"' = [Cursor.byte '"'] := rfl
  simp only [Utf8.encode, writtenText, String.toList_ofList, List.cons_append, List.flatMap_cons,
    List.flatMap_append, List.flatMap_assoc, List.flatMap_nil, hquote, List.nil_append]
  rfl

theorem takes_quotedText (s : String) (behind : List UInt8) :
    Takes quotedText (s.toList.flatMap writtenBytes ++ Cursor.byte '"' :: behind) behind s := by
  refine .get_bind fun c hc => ?_
  refine (takes_textBytes s.toList behind ?_).bind ?_
  · rw [hc, List.length_append]
    omega
  · have hdecode : Utf8.decode (s.toList.flatMap Utf8.encodeChar) = .ok s := Utf8.decode_encode s
    simp only [hdecode]
    exact (takes_step _ behind).bind (.pure s behind)

end NotebookCheck.Json

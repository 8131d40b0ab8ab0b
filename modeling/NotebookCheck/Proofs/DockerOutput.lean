import NotebookCheck.Docker.Container
import NotebookCheck.Proofs.LossyDecoding

/-!
The output that is collected from messages.  It is what the bytes of each channel decode to as a
whole exactly if no character is cut between two messages of a channel: output does depend on how
it comes.
-/

namespace NotebookCheck.Docker

open Text Utf8

def Message.output? : Message → Option (List UInt8)
  | stdout bytes | console bytes => some bytes
  | stdin _ | stderr _ => none

def Message.errors? : Message → Option (List UInt8)
  | stderr bytes => some bytes
  | stdin _ | stdout _ | console _ => none

namespace Output

def ofWhole (messages : List Message) : Output where
  stdout := decodeLossy (messages.filterMap Message.output?).flatten
  stderr := decodeLossy (messages.filterMap Message.errors?).flatten

theorem foldl_add (o : Output) (messages : List Message) :
    messages.foldl add o = {
      stdout := o.stdout ++
        String.ofList ((messages.filterMap Message.output?).flatMap decodeLossyChars)
      stderr := o.stderr ++
        String.ofList ((messages.filterMap Message.errors?).flatMap decodeLossyChars) } := by
  induction messages generalizing o with
  | nil => simp
  | cons message rest ih =>
      rw [List.foldl_cons, ih]
      cases message with
      | stdin bytes => rfl
      | stdout bytes | console bytes | stderr bytes =>
          simp [add, List.filterMap_cons, Message.output?, Message.errors?, decodeLossy,
            String.append_assoc]

theorem ofMessages_eq (messages : List Message) :
    ofMessages (some messages) =
      .ok ⟨String.ofList ((messages.filterMap Message.output?).flatMap decodeLossyChars),
        String.ofList ((messages.filterMap Message.errors?).flatMap decodeLossyChars)⟩ := by
  simp [ofMessages, foldl_add]

/-- When output does not depend on how it comes.  The output of messages is what the bytes of each
channel decode to as a whole exactly if no character is cut between two messages of a channel. -/
theorem ofMessages_eq_ofWhole_iff (messages : List Message) :
    ofMessages (some messages) = .ok (ofWhole messages) ↔
      KeepsCharacters (messages.filterMap Message.output?) ∧
        KeepsCharacters (messages.filterMap Message.errors?) := by
  rw [ofMessages_eq, ← flatMap_decodeLossyChars_eq_iff, ← flatMap_decodeLossyChars_eq_iff,
    Except.ok.injEq, ofWhole, mk.injEq, decodeLossy, decodeLossy, String.ofList_inj,
    String.ofList_inj]

/-- A character that comes in two messages is lost. -/
theorem ofMessages_loses_cut_character :
    ofMessages (some [.stdout [0xC3], .stdout [0xA9]]) ≠
      .ok (ofWhole [.stdout [0xC3], .stdout [0xA9]]) := by
  have hfirst : decodeLossyChars [0xC3] = [replacement] :=
    decodeLossyChars_of_unfinished (by decide) (by decide)
  have hsecond : decodeLossyChars [0xA9] = [replacement] := by
    rw [decodeLossyChars_of_unannounced (by decide), decodeLossyChars]
  have hwhole : decodeLossyChars [0xC3, 0xA9] = ['é'] := by
    have hfront : front 0xC3 [0xA9] = .scalar 'é' 2 := by decide
    rw [decodeLossyChars, hfront]
    simp [decodeLossyChars]
  have hcollected : ofMessages (some [.stdout [0xC3], .stdout [0xA9]]) =
      .ok ⟨String.ofList (decodeLossyChars [0xC3] ++ (decodeLossyChars [0xA9] ++ [])),
        String.ofList []⟩ := ofMessages_eq _
  have hexpected : ofWhole [.stdout [0xC3], .stdout [0xA9]] =
      ⟨String.ofList (decodeLossyChars [0xC3, 0xA9]), String.ofList (decodeLossyChars [])⟩ := rfl
  rw [hcollected, hexpected, hfirst, hsecond, hwhole]
  simp [replacement]

end Output

end NotebookCheck.Docker

namespace NotebookCheck.Text.Utf8

def replacement : Char := '\uFFFD'

/-- What the front of a byte sequence holds: a scalar, a fault of that many bytes, or the beginning
of a scalar that the sequence does not finish. -/
inductive Front where
  | scalar (c : Char) (width : Nat)
  | invalid (width : Nat)
  | truncated (width : Nat)
deriving Repr, DecidableEq

def isContinuation (b : UInt8) : Bool :=
  0x80 ≤ b && b ≤ 0xBF

/-- The range of the second byte after a given first byte, which excludes overlong forms,
surrogates and values past the last scalar. -/
def secondRange (lead : UInt8) : UInt8 × UInt8 :=
  if lead = 0xE0 then (0xA0, 0xBF)
  else if lead = 0xED then (0x80, 0x9F)
  else if lead = 0xF0 then (0x90, 0xBF)
  else if lead = 0xF4 then (0x80, 0x8F)
  else (0x80, 0xBF)

/-- The number of bytes that a first byte announces, or zero if no scalar begins with it. -/
def announcedWidth (lead : UInt8) : Nat :=
  if lead < 0x80 then 1
  else if 0xC2 ≤ lead && lead ≤ 0xDF then 2
  else if 0xE0 ≤ lead && lead ≤ 0xEF then 3
  else if 0xF0 ≤ lead && lead ≤ 0xF4 then 4
  else 0

def payload (b : UInt8) : Nat := b.toNat % 64

def front (lead : UInt8) (rest : List UInt8) : Front :=
  let inSecond (b : UInt8) : Bool :=
    let range := secondRange lead
    range.1 ≤ b && b ≤ range.2
  match announcedWidth lead with
  | 1 => .scalar (Char.ofNat lead.toNat) 1
  | 2 =>
      match rest with
      | [] => .truncated 1
      | b :: _ =>
          if inSecond b then .scalar (Char.ofNat (lead.toNat % 32 * 64 + payload b)) 2
          else .invalid 1
  | 3 =>
      match rest with
      | [] => .truncated 1
      | b :: rest =>
          if !inSecond b then .invalid 1
          else
            match rest with
            | [] => .truncated 2
            | c :: _ =>
                if isContinuation c then
                  .scalar (Char.ofNat ((lead.toNat % 16 * 64 + payload b) * 64 + payload c)) 3
                else .invalid 2
  | 4 =>
      match rest with
      | [] => .truncated 1
      | b :: rest =>
          if !inSecond b then .invalid 1
          else
            match rest with
            | [] => .truncated 2
            | c :: rest =>
                if !isContinuation c then .invalid 2
                else
                  match rest with
                  | [] => .truncated 3
                  | d :: _ =>
                      if isContinuation d then
                        .scalar (Char.ofNat (((lead.toNat % 8 * 64 + payload b) * 64 +
                          payload c) * 64 + payload d)) 4
                      else .invalid 3
  | _ => .invalid 1

/-- Why bytes are no UTF-8 text: a run of bytes that no scalar begins with, or a last scalar that
is cut off. -/
inductive Fault where
  | invalid (width index : Nat)
  | truncated (index : Nat)
deriving Repr, DecidableEq

def Fault.message : Fault → String
  | .invalid width index => s!"invalid utf-8 sequence of {width} bytes from index {index}"
  | .truncated index => s!"incomplete utf-8 byte sequence from index {index}"

def decodeFrom (index : Nat) : List UInt8 → Except Fault (List Char)
  | [] => .ok []
  | lead :: rest =>
      match front lead rest with
      | .scalar c width => (decodeFrom (index + width) (rest.drop (width - 1))).map (c :: ·)
      | .invalid width => .error (.invalid width index)
      | .truncated _ => .error (.truncated index)
termination_by bytes => bytes.length
decreasing_by simp only [List.length_drop, List.length_cons]; omega

def decode (bytes : List UInt8) : Except Fault String :=
  (decodeFrom 0 bytes).map String.ofList

def decodeLossyChars : List UInt8 → List Char
  | [] => []
  | lead :: rest =>
      match front lead rest with
      | .scalar c width => c :: decodeLossyChars (rest.drop (width - 1))
      | .invalid width => replacement :: decodeLossyChars (rest.drop (width - 1))
      | .truncated _ => [replacement]
termination_by bytes => bytes.length
decreasing_by all_goals (simp only [List.length_drop, List.length_cons]; omega)

def decodeLossy (bytes : List UInt8) : String :=
  String.ofList (decodeLossyChars bytes)

def encodeChar (c : Char) : List UInt8 :=
  let n := c.toNat
  if n < 0x80 then [n.toUInt8]
  else if n < 0x800 then [(0xC0 + n / 64).toUInt8, (0x80 + n % 64).toUInt8]
  else if n < 0x10000 then
    [(0xE0 + n / 4096).toUInt8, (0x80 + n / 64 % 64).toUInt8, (0x80 + n % 64).toUInt8]
  else
    [(0xF0 + n / 262144).toUInt8, (0x80 + n / 4096 % 64).toUInt8,
      (0x80 + n / 64 % 64).toUInt8, (0x80 + n % 64).toUInt8]

def encode (s : String) : List UInt8 :=
  s.toList.flatMap encodeChar

end NotebookCheck.Text.Utf8

namespace NotebookCheck.Text.Utf16

/-- The units that bytes make, of which the first or the second one is the greater; a last byte
that is alone makes none. -/
def units? (greaterFirst : Bool) : List UInt8 → Option (List Nat)
  | [] => some []
  | [_] => none
  | a :: b :: rest =>
      let unit := if greaterFirst then 256 * a.toNat + b.toNat else 256 * b.toNat + a.toNat
      (units? greaterFirst rest).map (unit :: ·)

def isHigh (n : Nat) : Bool := 0xD800 ≤ n && n < 0xDC00

def isLow (n : Nat) : Bool := 0xDC00 ≤ n && n < 0xE000

def chars? : List Nat → Option (List Char)
  | [] => some []
  | h :: l :: rest =>
      if isHigh h then
        if isLow l then
          (chars? rest).map (Char.ofNat (0x10000 + (h - 0xD800) * 0x400 + (l - 0xDC00)) :: ·)
        else none
      else if isLow h then none
      else (chars? (l :: rest)).map (Char.ofNat h :: ·)
  | [u] => if isHigh u || isLow u then none else some [Char.ofNat u]

def decode? (greaterFirst : Bool) (bytes : List UInt8) : Option String :=
  ((units? greaterFirst bytes).bind chars?).map String.ofList

end NotebookCheck.Text.Utf16

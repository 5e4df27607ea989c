/-!
# Decoding UTF-8

Bytes are decoded to characters from the left.  What cannot be decoded is reported with the
positions of the bytes at fault: a byte that starts no character, a character cut short by a byte
that does not continue it, or one cut short by the end.
-/

namespace SpriteStage.Text

/-- Why bytes are not UTF-8. -/
inductive Utf8Reason where
  | invalidStart
  | invalidContinuation
  | unexpectedEnd
  deriving DecidableEq, Repr

/-- A fault in bytes: its first byte and the place and number of the bytes at fault. -/
structure Utf8Error where
  byte : UInt8
  start : Nat
  count : Nat
  reason : Utf8Reason
  deriving DecidableEq, Repr

/-- The wording of a reason. -/
def Utf8Reason.message : Utf8Reason → String
  | .invalidStart => "invalid start byte"
  | .invalidContinuation => "invalid continuation byte"
  | .unexpectedEnd => "unexpected end of data"

/-- The digits of a byte in hexadecimal. -/
def byteDigits (b : UInt8) : String :=
  String.ofList [Nat.digitChar (b.toNat / 16), Nat.digitChar (b.toNat % 16)]

/-- The wording of a fault. -/
def Utf8Error.message (e : Utf8Error) : String :=
  let place :=
    if e.count = 1 then s!"byte 0x{byteDigits e.byte} in position {e.start}"
    else s!"bytes in position {e.start}-{e.start + e.count - 1}"
  s!"'utf-8' codec can't decode {place}: {e.reason.message}"

/-- Whether a byte continues a character. -/
def isContinuation (b : UInt8) : Bool := 0x80 ≤ b && b < 0xC0

/-- Whether a second byte may follow a first one: a continuation byte that leads to neither an
    overlong form, a surrogate nor a code point past the last. -/
def isSecond (first second : UInt8) : Bool :=
  isContinuation second &&
    (if first == 0xE0 then 0xA0 ≤ second
     else if first == 0xED then second < 0xA0
     else if first == 0xF0 then 0x90 ≤ second
     else if first == 0xF4 then second < 0x90
     else true)

/-- The number of bytes of the character that a byte starts, if it starts one. -/
def sequenceLength? (first : UInt8) : Option Nat :=
  if first < 0x80 then some 1
  else if first < 0xC2 then none
  else if first < 0xE0 then some 2
  else if first < 0xF0 then some 3
  else if first < 0xF5 then some 4
  else none

/-- The payload of a continuation byte. -/
def payload (b : UInt8) : Nat := b.toNat % 0x40

/-- The first character of non-empty bytes and the number of bytes past its first, or the number of
    bytes at fault and the reason. -/
def decodeChar (first : UInt8) (rest : List UInt8) : Except (Nat × Utf8Reason) (Char × Nat) :=
  match sequenceLength? first, rest with
  | none, _ => .error (1, .invalidStart)
  | some 1, _ => .ok (Char.ofNat first.toNat, 0)
  | some _, [] => .error (1, .unexpectedEnd)
  | some length, b :: rest =>
    if !isSecond first b then .error (1, .invalidContinuation)
    else if length = 2 then .ok (Char.ofNat (first.toNat % 0x20 * 0x40 + payload b), 1)
    else match rest with
      | [] => .error (2, .unexpectedEnd)
      | c :: rest =>
        if !isContinuation c then .error (2, .invalidContinuation)
        else if length = 3 then
          .ok (Char.ofNat ((first.toNat % 0x10 * 0x40 + payload b) * 0x40 + payload c), 2)
        else match rest with
          | [] => .error (3, .unexpectedEnd)
          | d :: _ =>
            if !isContinuation d then .error (3, .invalidContinuation)
            else .ok (Char.ofNat
              (((first.toNat % 8 * 0x40 + payload b) * 0x40 + payload c) * 0x40 + payload d), 3)

/-- The characters of bytes, the first byte having the position `start`; `skip` bytes belong to the
    character before. -/
def decodeFrom (start skip : Nat) : List UInt8 → Except Utf8Error (List Char)
  | [] => .ok []
  | b :: rest =>
    match skip with
    | skip + 1 => decodeFrom (start + 1) skip rest
    | 0 =>
      match decodeChar b rest with
      | .error (count, reason) => .error ⟨b, start, count, reason⟩
      | .ok (c, more) => (decodeFrom (start + 1) more rest).map (c :: ·)

/-- The text that bytes encode in UTF-8. -/
def decodeUtf8 (bytes : List UInt8) : Except Utf8Error String :=
  (decodeFrom 0 0 bytes).map String.ofList

/-- The bytes of a text in UTF-8. -/
def encodeUtf8 (s : String) : List UInt8 := s.toUTF8.toList

end SpriteStage.Text

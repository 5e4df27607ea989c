import SpriteStage.Text.Quoted

/-!
# Encodings

An encoding has bytes for some characters.  A text with another one is not written at all, and the error
tells where the first such characters stand.

## Main definitions

* `Text.Codec` is an encoding
* `Text.Codec.encodeError?` is the error of encoding a text
-/

namespace SpriteStage.Text

/-- An encoding. -/
structure Codec where
  /-- The name that errors call it by. -/
  name : String
  /-- Whether there are bytes for a character. -/
  encodes : Char → Bool
  /-- What errors say of a character without bytes. -/
  complaint : String

/-- UTF-8 has bytes for every character. -/
def Codec.utf8 : Codec := ⟨"utf-8", fun _ => true, "surrogates not allowed"⟩

/-- ASCII has bytes for 128 characters. -/
def Codec.ascii : Codec := ⟨"ascii", fun c => c.toNat < 0x80, "ordinal not in range(128)"⟩

/-- Why a text has no bytes: the first character without bytes, its position, and the number of such
    characters that stand there. -/
structure EncodeError where
  codec : String
  first : Char
  start : Nat
  count : Nat
  complaint : String
  deriving DecidableEq, Repr

/-- The wording of an error. -/
def EncodeError.message (e : EncodeError) : String :=
  let first := String.ofList (hexEscape e.first.toNat)
  let place :=
    if e.count = 1 then s!"character '{first}' in position {e.start}"
    else s!"characters in position {e.start}-{e.start + e.count - 1}"
  s!"'{e.codec}' codec can't encode {place}: {e.complaint}"

/-- The error of encoding a text, unless there are bytes for all of it. -/
def Codec.encodeError? (codec : Codec) (text : String) : Option EncodeError :=
  match text.toList.dropWhile codec.encodes with
  | [] => none
  | c :: rest => some {
      codec := codec.name
      first := c
      start := (text.toList.takeWhile codec.encodes).length
      count := 1 + (rest.takeWhile (!codec.encodes ·)).length
      complaint := codec.complaint }

/-- UTF-8 has bytes for every text. -/
theorem Codec.encodeError?_utf8 (text : String) : utf8.encodeError? text = none := by
  have hall (cs : List Char) : cs.dropWhile utf8.encodes = [] := by
    induction cs with
    | nil => rfl
    | cons c cs ih => exact ih
  rw [encodeError?, hall]

/-- Two characters at once, after one with a byte. -/
example : (Codec.ascii.encodeError? "aéü").map (·.message) =
    some "'ascii' codec can't encode characters in position 1-2: ordinal not in range(128)" := by
  decide

end SpriteStage.Text

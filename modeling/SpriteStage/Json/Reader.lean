import SpriteStage.Value.Error
import SpriteStage.Number.Numeral

/-!
# Reading JSON

The reader accepts JSON texts, and beyond them the names `NaN`, `Infinity` and `-Infinity` for the
doubles that JSON cannot write.  A number is a double exactly if it has a fraction or an exponent.
Of two fields with one key the later value counts, at the place of the earlier one.  A fault is
reported with the position of the character at which reading stopped.

A text is made of characters, so half of a surrogate pair has no place in it: an escape that stands for one
is read as the replacement character.  What is said of the texts read here concerns texts without such escapes.
-/

namespace SpriteStage.Json

/-- Why a text is not JSON. -/
inductive Cause where
  | value
  | propertyName
  | colon
  | comma
  | extraData
  | unterminatedText
  | controlCharacter
  | invalidEscape
  | invalidCodeUnit
  | byteOrderMark
  /-- An integer has too many digits; this fault has no position. -/
  | digitCount (digits : Nat)
  deriving DecidableEq, Repr

/-- The wording of a cause. -/
def Cause.message : Cause → String
  | .value => "Expecting value"
  | .propertyName => "Expecting property name enclosed in double quotes"
  | .colon => "Expecting ':' delimiter"
  | .comma => "Expecting ',' delimiter"
  | .extraData => "Extra data"
  | .unterminatedText => "Unterminated string starting at"
  | .controlCharacter => "Invalid control character at"
  | .invalidEscape => "Invalid \\escape"
  | .invalidCodeUnit => "Invalid \\uXXXX escape"
  | .byteOrderMark => "Unexpected UTF-8 BOM (decode using utf-8-sig)"
  | .digitCount n => (OperationError.digitCount n).message

/-- A fault: its cause and the number of characters from its position to the end of the text. -/
structure Fault where
  cause : Cause
  remaining : Nat
  deriving DecidableEq, Repr

/-- A fault before some characters. -/
def Fault.before (cause : Cause) (cs : List Char) : Fault := ⟨cause, cs.length⟩

/-- A fault in a whole text: its cause and its position. -/
structure ReadError where
  cause : Cause
  line : Nat
  column : Nat
  position : Nat
  deriving DecidableEq, Repr

/-- The place of a fault in a text. -/
def Fault.locate (f : Fault) (text : List Char) : ReadError :=
  let position := text.length - f.remaining
  let before := text.take position
  { cause := f.cause
    line := before.count '\n' + 1
    column := (before.reverse.takeWhile (· ≠ '\n')).length + 1
    position := position }

/-- The wording of a fault with its place. -/
def ReadError.message (e : ReadError) : String :=
  match e.cause with
  | .digitCount n => (Cause.digitCount n).message
  | cause => s!"{cause.message}: line {e.line} column {e.column} (char {e.position})"

/-- Whether a character may stand between the parts of a JSON text. -/
def isSpace (c : Char) : Bool := c == ' ' || c == '\t' || c == '\n' || c == '\r'

/-- The characters past leading space. -/
def skipSpace (cs : List Char) : List Char := cs.dropWhile isSpace

/-- The value of four hexadecimal digits at the beginning of the characters. -/
def codeUnit? (cs : List Char) : Option Nat :=
  let ds := cs.take 4
  if ds.length = 4 ∧ ds.all (Numeral.isDigit 16) then some (Numeral.valueOf 16 ds) else none

/-- Whether a code unit starts a surrogate pair. -/
def isHighSurrogate (n : Nat) : Bool := 0xD800 ≤ n && n < 0xDC00

/-- Whether a code unit ends a surrogate pair. -/
def isLowSurrogate (n : Nat) : Bool := 0xDC00 ≤ n && n < 0xE000

/-- The character of a code unit; a surrogate that stands alone becomes the replacement character. -/
def charOfUnit (n : Nat) : Char :=
  if 0xD800 ≤ n ∧ n < 0xE000 then Char.ofNat 0xFFFD else Char.ofNat n

/-- The character of a surrogate pair. -/
def charOfPair (high low : Nat) : Char :=
  Char.ofNat (0x10000 + (high - 0xD800) * 0x400 + (low - 0xDC00))

/-- What a single character after a backslash stands for. -/
def simpleEscape? : Char → Option Char
  | '"' => some '"'
  | '\\' => some '\\'
  | '/' => some '/'
  | 'b' => some '\x08'
  | 'f' => some '\x0c'
  | 'n' => some '\n'
  | 'r' => some '\r'
  | 't' => some '\t'
  | _ => none

/-- The character that an escape of a code unit stands for and what follows it; `cs` starts with the
    `u`.  Two escapes of a surrogate pair are one character. -/
def unicodeEscape (cs : List Char) : Except Fault (Char × List Char) :=
  let digits := cs.drop 1
  if digits.length ≤ 4 then .error (.before .invalidCodeUnit cs)
  else match codeUnit? digits with
    | none => .error (.before .invalidCodeUnit cs)
    | some n =>
      let rest := digits.drop 4
      match rest with
      | '\\' :: 'u' :: more =>
        -- The other half of a pair must have something behind it, were it only the quote.
        if isHighSurrogate n && rest.length > 6 then
          match codeUnit? more with
          | none => .error (.before .invalidCodeUnit ('u' :: more))
          | some m => if isLowSurrogate m then .ok (charOfPair n m, more.drop 4)
            else .ok (charOfUnit n, rest)
        else .ok (charOfUnit n, rest)
      | _ => .ok (charOfUnit n, rest)

/-- The characters of a text up to its closing quote, and what follows.  `start` holds the characters
    from the opening quote on. -/
def readText (start : List Char) : Nat → List Char → Except Fault (List Char × List Char)
  | 0, _ => .error (.before .unterminatedText start)
  | fuel + 1, cs =>
    match cs with
    | [] => .error (.before .unterminatedText start)
    | '"' :: rest => .ok ([], rest)
    | '\\' :: escape =>
      match escape with
      | [] => .error (.before .unterminatedText start)
      | 'u' :: _ => do
        let (c, rest) ← unicodeEscape escape
        let (more, rest) ← readText start fuel rest
        return (c :: more, rest)
      | e :: rest =>
        match simpleEscape? e with
        | none => .error (.before .invalidEscape cs)
        | some c => do
          let (more, rest) ← readText start fuel rest
          return (c :: more, rest)
    | c :: rest =>
      if c.toNat < 0x20 then .error (.before .controlCharacter cs)
      else do
        let (more, rest) ← readText start fuel rest
        return (c :: more, rest)

/-- The text that starts after an opening quote. -/
def readString (start rest : List Char) : Except Fault (String × List Char) := do
  let (cs, rest) ← readText start (rest.length + 1) rest
  return (String.ofList cs, rest)

/-- The digits of an integer part: a zero alone, or digits that start with another one. -/
def integerDigits : List Char → List Char
  | '0' :: _ => ['0']
  | cs => cs.takeWhile Char.isDigit

/-- The digits of a fraction with what follows them, if a point and a digit come first. -/
def fraction? : List Char → Option (List Char × List Char)
  | '.' :: rest =>
    let ds := rest.takeWhile Char.isDigit
    if ds.isEmpty then none else some (ds, rest.drop ds.length)
  | _ => none

/-- The value of an exponent with what follows it, if there is a whole one. -/
def exponent? : List Char → Option (Int × List Char)
  | e :: rest =>
    if e = 'e' ∨ e = 'E' then
      let (negative, rest) := Numeral.sign rest
      let ds := rest.takeWhile Char.isDigit
      if ds.isEmpty then none
      else some (Exact.signed negative (Numeral.valueOf 10 ds), rest.drop ds.length)
    else none
  | [] => none

/-- The number at the beginning of the characters and what follows it. -/
def readNumber (cs : List Char) : Except Fault (Value × List Char) :=
  let negative := cs.head? == some '-'
  let digits := if negative then cs.drop 1 else cs
  let whole := integerDigits digits
  if whole.isEmpty then .error (.before .value cs)
  else
    let rest := digits.drop whole.length
    let (places, rest) := match fraction? rest with
      | some (ds, rest) => (ds, rest)
      | none => ([], rest)
    -- Without a fraction and an exponent it is an integer.
    match exponent? rest, places.isEmpty with
    | none, true =>
      if whole.length > digitLimit then .error (.before (.digitCount whole.length) cs)
      else .ok (.int (Exact.signed negative (Numeral.valueOf 10 whole)), rest)
    | exponent, _ =>
      let (e, rest) := exponent.getD (0, rest)
      let x := Numeral.scaled (Numeral.valueOf 10 (whole ++ places)) (e - places.length)
      .ok (.float (if negative then -x else x), rest)

/-- The names that stand for values. -/
def names : List (List Char × Value) :=
  [("null".toList, .null), ("true".toList, .bool true), ("false".toList, .bool false),
   ("NaN".toList, .float Double.nan), ("Infinity".toList, .float (Double.infinity false)),
   ("-Infinity".toList, .float (Double.infinity true))]

/-- The named value or the number at the beginning of the characters. -/
def readScalar (cs : List Char) : Except Fault (Value × List Char) :=
  -- The names come first, for one of them begins like a number.
  match names.find? (fun n => n.1.isPrefixOf cs) with
  | some (name, v) => .ok (v, cs.drop name.length)
  | none => readNumber cs

mutual

/-- The value at the beginning of the characters and what follows it. -/
def readValue : Nat → List Char → Except Fault (Value × List Char)
  | 0, cs => .error (.before .value cs)
  | fuel + 1, cs =>
    match cs with
    | '"' :: rest => do
      let (s, rest) ← readString cs rest
      return (.text s, rest)
    | '[' :: rest =>
      match skipSpace rest with
      | ']' :: rest => .ok (.list [], rest)
      | rest => do
        let (items, rest) ← readItems fuel rest
        return (.list items, rest)
    | '\x7b' :: rest =>
      match skipSpace rest with
      | '\x7d' :: rest => .ok (.object [], rest)
      | rest => do
        let (fields, rest) ← readFields fuel [] rest
        return (.object fields, rest)
    | cs => readScalar cs

/-- The items of a list up to its closing bracket, and what follows. -/
def readItems : Nat → List Char → Except Fault (List Value × List Char)
  | 0, cs => .error (.before .value cs)
  | fuel + 1, cs => do
    let (v, rest) ← readValue fuel cs
    match skipSpace rest with
    | ']' :: rest => return ([v], rest)
    | ',' :: rest =>
      let (more, rest) ← readItems fuel (skipSpace rest)
      return (v :: more, rest)
    | rest => throw (.before .comma rest)

/-- The fields of an object up to its closing brace, put after those read before, and what
    follows. -/
def readFields : Nat → List (String × Value) → List Char →
    Except Fault (List (String × Value) × List Char)
  | 0, _, cs => .error (.before .propertyName cs)
  | fuel + 1, fields, cs =>
    match cs with
    | '"' :: rest => do
      let (key, rest) ← readString cs rest
      match skipSpace rest with
      | ':' :: rest =>
        let (v, rest) ← readValue fuel (skipSpace rest)
        let fields := Value.setField key v fields
        match skipSpace rest with
        | '\x7d' :: rest => return (fields, rest)
        | ',' :: rest => readFields fuel fields (skipSpace rest)
        | rest => throw (.before .comma rest)
      | rest => throw (.before .colon rest)
    | cs => .error (.before .propertyName cs)

end

/-- The value of a whole text of characters. -/
def readList (cs : List Char) : Except Fault Value :=
  match cs with
  | '\uFEFF' :: _ => .error (.before .byteOrderMark cs)
  | cs => do
    let (v, rest) ← readValue (cs.length + 1) (skipSpace cs)
    match skipSpace rest with
    | [] => return v
    | rest => throw (.before .extraData rest)

/-- The value that a JSON text writes. -/
def read (text : String) : Except ReadError Value :=
  (readList text.toList).mapError (·.locate text.toList)

end SpriteStage.Json

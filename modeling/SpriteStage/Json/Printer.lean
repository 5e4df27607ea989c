import SpriteStage.Value.Display

/-!
# Writing JSON

A `Style` says how values are written: on one line or indented, with the keys in their order or
sorted, with or without characters past ASCII, and whether doubles that JSON cannot write are let
through under their names or refused.
-/

namespace SpriteStage.Json

/-- How values are written. -/
structure Style where
  /-- Whether characters outside the printable ones of ASCII are escaped. -/
  ascii : Bool := true
  /-- The width of one level of indentation, or nothing for a single line. -/
  indent : Option Nat := none
  /-- Whether the fields of objects are sorted by key. -/
  sorted : Bool := false
  /-- Whether not-a-number and the infinities are written by name. -/
  names : Bool := false

/-- Why a value cannot be written. -/
inductive WriteError where
  /-- A double that JSON cannot write; `shown` if the message shows it. -/
  | nonFinite (x : Float) (shown : Bool)
  /-- An integer with too many digits. -/
  | digitLimit
  deriving DecidableEq

/-- The wording of a cause. -/
def WriteError.message : WriteError → String
  | .nonFinite x shown =>
    "Out of range float values are not JSON compliant" ++
      (if shown then ": " ++ Double.text x else "")
  | .digitLimit => OperationError.digitLimit.message

/-- The escape of a code unit. -/
def escapeUnit (n : Nat) : List Char := '\\' :: 'u' :: Text.hexDigits 4 n

/-- The escape of a character: one code unit, or the two of a surrogate pair. -/
def escapeCode (n : Nat) : List Char :=
  if n < 0x10000 then escapeUnit n
  else
    let m := n - 0x10000
    escapeUnit (0xD800 + m / 0x400) ++ escapeUnit (0xDC00 + m % 0x400)

/-- A character inside a JSON text. -/
def escapeChar (ascii : Bool) (c : Char) : List Char :=
  if c = '"' then ['\\', '"']
  else if c = '\\' then ['\\', '\\']
  else if c = '\n' then ['\\', 'n']
  else if c = '\r' then ['\\', 'r']
  else if c = '\t' then ['\\', 't']
  else if c = '\x0c' then ['\\', 'f']
  else if c = '\x08' then ['\\', 'b']
  -- The last character of ASCII is no printable one either.
  else if c.toNat < 0x20 ∨ (ascii ∧ 0x7F ≤ c.toNat) then escapeCode c.toNat
  else [c]

/-- A text between quotes. -/
def writeText (ascii : Bool) (s : String) : String :=
  String.ofList ('"' :: s.toList.flatMap (escapeChar ascii) ++ ['"'])

/-- A double: the finite ones by their shortest text. -/
def writeFloat (style : Style) (x : Float) : Except WriteError String :=
  match Exact.ofFloat x with
  | .finite .. => .ok (Double.text x)
  | _ => if style.names then .ok (Double.logged x) else .error (.nonFinite x style.indent.isSome)

/-- A line break followed by the indentation of a level, in an indented style. -/
def lineBreak (style : Style) (level : Nat) : String :=
  match style.indent with
  | none => ""
  | some width => String.ofList ('\n' :: List.replicate (width * level) ' ')

/-- What stands between two items. -/
def separator (style : Style) (level : Nat) : String :=
  if style.indent.isSome then "," ++ lineBreak style level else ", "

/-- Parts between brackets, each on its own line in an indented style. -/
def enclose (style : Style) (level : Nat) (left right : String) (parts : List String) : String :=
  if parts.isEmpty then left ++ right
  else left ++ lineBreak style (level + 1) ++ (separator style (level + 1)).intercalate parts
    ++ lineBreak style level ++ right

/-- The texts of fields in the order of the style. -/
def arrange (style : Style) (fields : List (String × String)) : List String :=
  let fields := if style.sorted then fields.mergeSort (fun f g => f.1 ≤ g.1) else fields
  fields.map (fun f => writeText style.ascii f.1 ++ ": " ++ f.2)

mutual

/-- A value at a level of indentation. -/
def write (style : Style) (level : Nat) : Value → Except WriteError String
  | .null => .ok "null"
  | .bool b => .ok (if b then "true" else "false")
  | .int n => (integerText n).mapError (fun _ => .digitLimit)
  | .float x => writeFloat style x
  | .text s => .ok (writeText style.ascii s)
  | .list items => return enclose style level "[" "]" (← writeItems style (level + 1) items)
  | .object fields =>
    return enclose style level "\x7b" "\x7d"
      (arrange style (← writeFields style (level + 1) fields))

/-- The items of a list. -/
def writeItems (style : Style) (level : Nat) : List Value → Except WriteError (List String)
  | [] => .ok []
  | v :: rest => do
    let head ← write style level v
    return head :: (← writeItems style level rest)

/-- The fields of an object: each key with the text of its value. -/
def writeFields (style : Style) (level : Nat) :
    List (String × Value) → Except WriteError (List (String × String))
  | [] => .ok []
  | (key, v) :: rest => do
    let head ← write style level v
    return (key, head) :: (← writeFields style level rest)

end

/-- The text of a value. -/
def print (style : Style) (v : Value) : Except WriteError String := write style 0 v

end SpriteStage.Json

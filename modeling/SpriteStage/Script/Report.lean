import SpriteStage.Script.Reading

/-!
# Locations in messages

A message about a script ends with the line and the column of what it is about, and with that part of
the script, if there is any text to show.
-/

namespace SpriteStage.Script

/-- The lines of a message that show a place; columns start at one. -/
def locationBlock (line column : Int) (code : Option String) : String :=
  s!"Location: line {line}, column {max column 1}" ++
    (match code with
      | none | some "" => ""
      | some code => s!"\nCode: {code}")

/-- A text without the blanks around it, unless nothing is left. -/
def shown? (cs : List Char) : Option String :=
  match Text.stripList cs with
  | [] => none
  | cs => some (String.ofList cs)

/-- A line of a text, counted from one; line ends of all kinds count. -/
def line? (text : List Char) (line : Nat) : Option (List Char) :=
  if line = 0 then none else (Text.linesFrom [] text)[line - 1]?

/-- The message for a text that is no script. -/
def Fault.message (text : List Char) (f : Fault) : String :=
  let lines := linesOf (readable text)
  let code := match shown? (f.quoted lines) with
    | some code => some code
    | none => (line? text f.line).bind shown?
  s!"Invalid Python syntax: {f.cause.message}\n" ++ locationBlock f.line (f.columnIn lines) code

/-- The characters from the first byte offset on. -/
def dropBytes : Nat → List Char → List Char
  | 0, cs => cs
  | _, [] => []
  | bytes + 1, c :: rest => dropBytes (bytes + 1 - c.utf8Size) rest

/-- The characters before a byte offset. -/
def takeBytes : Nat → List Char → List Char
  | 0, _ => []
  | _, [] => []
  | bytes + 1, c :: rest => c :: takeBytes (bytes + 1 - c.utf8Size) rest

/-- The part of a text that a span covers, with the line ends of the text. -/
def Span.segment (text : List Char) (s : Span) : List Char :=
  let lines := (Text.physicalLinesFrom [] text).drop (s.start.line - 1)
  match lines with
  | [] => []
  | first :: rest =>
    if s.stop.line = s.start.line then
      dropBytes s.start.offset (takeBytes s.stop.offset first)
    else
      let between := rest.take (s.stop.line - s.start.line - 1)
      let last := (rest.drop (s.stop.line - s.start.line - 1)).headD []
      dropBytes s.start.offset first ++ between.flatten ++ takeBytes s.stop.offset last

/-- The place of a span in a message. -/
def Span.location (text : List Char) (s : Span) : String :=
  locationBlock s.start.line (s.start.offset + 1) (shown? (s.segment text))

end SpriteStage.Script

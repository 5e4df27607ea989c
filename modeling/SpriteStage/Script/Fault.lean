import SpriteStage.Script.Cause
import SpriteStage.Script.Position

/-!
# Faults of a script

A fault is a cause with the line and the column at which it is reported and the lines that are
quoted with it.  Columns count the characters of the quoted lines.
-/

namespace SpriteStage.Script

/-- How the column of a fault is given. -/
inductive Column where
  /-- As many as characters begin within the first bytes of the quoted lines. -/
  | within (bytes : Nat)
  /-- As many as characters stand in the quoted lines before the last one and begin within the first
      bytes of the last one. -/
  | withinLast (bytes : Nat)
  | exactly (column : Nat)
  deriving DecidableEq, Repr

/-- A cause with its place. -/
structure Fault where
  cause : Cause
  line : Nat
  column : Column
  /-- The first of the quoted lines. -/
  firstLine : Nat
  /-- The last of the quoted lines. -/
  lastLine : Nat
  deriving DecidableEq, Repr

/-- A fault within one line. -/
def Fault.inLine (cause : Cause) (line bytes : Nat) : Fault :=
  ⟨cause, line, .within bytes, line, line⟩

/-- The lines of a readable text with their ends. -/
def linesOf (cs : List Char) : List (List Char) := Text.physicalLinesFrom [] cs

/-- The lines from `first` to `last`, counted from one. -/
def stretch (lines : List (List Char)) (first last : Nat) : List (List Char) :=
  (lines.drop (first - 1)).take (last + 1 - first)

/-- The lines that are quoted with a fault. -/
def Fault.quoted (lines : List (List Char)) (f : Fault) : List Char :=
  (stretch lines f.firstLine f.lastLine).flatten

/-- The column at which a fault is reported. -/
def Fault.columnIn (lines : List (List Char)) (f : Fault) : Nat :=
  match f.column with
  | .within bytes => beginWithin bytes (f.quoted lines)
  | .withinLast bytes =>
    let quoted := stretch lines f.firstLine f.lastLine
    quoted.dropLast.flatten.length + beginWithin bytes (quoted.getLastD [])
  | .exactly column => column

end SpriteStage.Script

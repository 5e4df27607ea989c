import SpriteStage.Command.Basic

/-!
# The command line

Reads what a command needs, carries it out, writes its files, prints its lines, and ends with its
status: 2 if the command line cannot be read, 1 after a failure that is told on the error output.
-/

namespace SpriteStage.Command

/-- The text of a file, if there is one. -/
def readText? (path : String) : IO (Option String) := do
  try
    return some (← IO.FS.readFile path)
  catch _ =>
    return none

/-- Whether a path leads to a file. -/
def isFile (path : String) : IO Bool := do
  try
    let _ ← IO.FS.readBinFile path
    return true
  catch _ =>
    return false

/-- What a command finds. -/
def findSurroundings (command : Command) : IO Surroundings := do
  let directory := toString (← IO.currentDir)
  let program ← match command.input? with
    | some path => readText? path
    | none => pure none
  let isBlocked ← match command.target? directory with
    | some path => isFile path
    | none => pure false
  return { directory, program, isBlocked }

/-- Carries out a command. -/
def runCommand (command : Command) : IO UInt32 := do
  let found ← findSurroundings command
  let outcome := command.execute found
  if let some directory := command.target? found.directory then
    if !outcome.files.isEmpty then IO.FS.createDirAll directory
  for file in outcome.files do
    IO.FS.writeFile file.name file.text
  IO.print outcome.printed
  match outcome.ending with
  | .ok status => return status.toUInt32
  | .error e =>
    IO.eprintln e.message
    return 1

end SpriteStage.Command

/-- Carries out the command of a command line. -/
def main (arguments : List String) : IO UInt32 := do
  match SpriteStage.Command.parse arguments with
  | some command => SpriteStage.Command.runCommand command
  | none =>
    IO.eprintln "error: the command line cannot be read"
    return 2

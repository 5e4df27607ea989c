import SpriteStage.Program.Listing
import SpriteStage.Run.Payload
import SpriteStage.Json.Printer

/-!
# Exporting a run

A run is exported as three files: the program as a payload, the program as a text, and the result of
the run.  A text that cannot be compiled is not exported at all.  The files are in UTF-8, which has bytes
for every character.

## Main definitions

* `Export.ofSource` compiles a text, runs it, and gives the files
* `Export.parts` are the files of a program and a result
-/

namespace SpriteStage

/-- Why a file has no text. -/
inductive FileError where
  | payload (error : PayloadError)
  | listing (error : ListingError)
  | unwritable (error : Json.WriteError)
  deriving DecidableEq

/-- The wording of a cause. -/
def FileError.message : FileError → String
  | .payload e => e.message
  | .listing e => e.message
  | .unwritable e => e.message

/-- A file: its name and its text. -/
structure File where
  name : String
  text : String
  deriving DecidableEq, Repr

/-- An exported run.  If a file has no text, the files before it are there nevertheless. -/
structure Export where
  result : RunResult
  files : List File
  error : Option FileError := none

namespace Export

/-- How the program is written as a payload. -/
def programStyle : Json.Style := { indent := some 2 }

/-- How the result is written. -/
def resultStyle : Json.Style := { indent := some 2, sorted := true, ascii := false }

/-- The text of a value. -/
def print (style : Json.Style) (v : Value) : Except FileError String :=
  (Json.print style v).mapError .unwritable

/-- The text of a program as a payload. -/
def programText (program : Program) : Except FileError String := do
  print programStyle (← (Payload.ofProgram program).mapError .payload)

/-- The files of a program and the result of its run, in the order in which they are written. -/
def parts (program : Program) (result : RunResult) : List (String × Except FileError String) := [
  ("program_ir.json", programText program),
  ("program.py", (Listing.ofProgram "runtime" program).mapError .listing),
  ("run_result.json", print resultStyle (Payload.ofResult result))]

/-- The files before the first one that has no text, and why that one has none. -/
def collect : List (String × Except FileError String) → List File × Option FileError
  | [] => ([], none)
  | (_, .error e) :: _ => ([], some e)
  | (name, .ok text) :: rest =>
    let (files, error) := collect rest
    (⟨name, text⟩ :: files, error)

/-- The export of a program and the result of its run. -/
def ofResult (program : Program) (result : RunResult) : Export :=
  let (files, error) := collect (parts program result)
  ⟨result, files, error⟩

/-- The export of the run of a text, and the warnings about the text. -/
def ofSource (config : StageConfig) (runId : Int) (source : String) :
    Except CompileError Export × List Warning :=
  let (compiled, warnings) := compile "runtime" source
  let finished (program : Program) : RunResult :=
    Run.finish { runId := runId, source := .program program, config := config }
  (compiled.map fun program => ofResult program (finished program), warnings)

end Export

end SpriteStage

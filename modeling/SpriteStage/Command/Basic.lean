import SpriteStage.Command.Arguments
import SpriteStage.Command.Path
import SpriteStage.Client.Bridge
import SpriteStage.Export
import SpriteStage.Text.Codec
import SpriteStage.Text.DecimalDigit

/-!
# Commands

The commands of the command line: run a program file, list the samples, and bridge the tools of a
service.  What a command does is told by an `Outcome`, so that only reading and writing files is left
to its caller.

## Main definitions

* `Command.parse` reads a command line
* `Command.execute` carries out a command with what it finds
-/

namespace SpriteStage

/-- How to run a program file. -/
structure RunOptions where
  program : String
  json : Bool := false
  waitScale : Float := 0.25
  /-- The directory to export to; an empty one counts as none. -/
  directory : String := ""

/-- What a command line asks for. -/
inductive Command where
  | help
  | run (options : RunOptions)
  | samples (verbose : Bool)
  | bridge (url name : String)

namespace Command

/-! ## Reading a command line -/

/-- The option that asks for help. -/
def helpFlag : Flag := ⟨["-h", "--help"], false⟩

/-- The options before the name of a command. -/
def commonFlags : List Flag := [helpFlag, ⟨["--log-level"], true⟩]

/-- The options of `run`. -/
def runFlags : List Flag :=
  [helpFlag, ⟨["--json"], false⟩, ⟨["--wait-scale"], true⟩, ⟨["--export"], true⟩]

/-- The options of `samples`. -/
def samplesFlags : List Flag := [helpFlag, ⟨["-v", "--verbose"], false⟩]

/-- The options of `mcp`. -/
def bridgeFlags : List Flag := [helpFlag, ⟨["--name"], true⟩]

/-- The values of the option for the amount of logging. -/
def logLevels : List String := ["DEBUG", "INFO", "WARNING", "ERROR"]

/-- The double that an option gives, or a default. -/
def floatOption (said : Said) (key : String) (otherwise : Float) : Option Float :=
  match said.value? key with
  | none => some otherwise
  | some text => Text.double? text

/-- Reads the words after `run`. -/
def ofRunWords (said : Said) : Option Command := do
  let waitScale ← floatOption said "--wait-scale" 0.25
  match said.words with
  | [program] =>
    return .run {
      program := program
      json := said.has "--json"
      waitScale := waitScale
      directory := (said.value? "--export").getD "" }
  | _ => none

/-- Reads the words after `samples`. -/
def ofSamplesWords (said : Said) : Option Command :=
  if said.words.isEmpty then some (.samples (said.has "--verbose")) else none

/-- Reads the words after `mcp`. -/
def ofBridgeWords (said : Said) : Option Command :=
  match said.words with
  | [url] => some (.bridge url ((said.value? "--name").getD Bridge.defaultName))
  | _ => none

/-- Reads words with some options, among them the one for help. -/
def readWords (flags : List Flag) (words : List String) (command : Said → Option Command) :
    Option Command := do
  let said ← readOptions flags (classifyAll flags words)
  if said.has helpFlag.key then return .help
  command said

/-- Reads the words after the name of a command. -/
def ofName (name : String) (words : List String) : Option Command :=
  if name = "run" then readWords runFlags words ofRunWords
  else if name = "samples" then readWords samplesFlags words ofSamplesWords
  else if name = "mcp" then readWords bridgeFlags words ofBridgeWords
  else none

/-- Reads the words up to the name of a command, and the command. -/
def ofWords : List (String × Word) → Option Command
  | [] => none
  | (name, .plain _) :: rest => ofName name (rest.map (·.1))
  -- The value stands in the word of the option, or is the next word.
  | (_, .option flag _ (some value)) :: rest =>
    if flag.takesValue ∧ value ∈ logLevels then ofWords rest else none
  | (_, .option flag _ none) :: (_, .plain value) :: rest =>
    if flag = helpFlag then some .help
    else if value ∈ logLevels then ofWords rest
    else none
  | (_, .option flag _ none) :: _ => if flag = helpFlag then some .help else none
  | _ => none

/-- The command of a command line, unless it cannot be read. -/
def parse (arguments : List String) : Option Command :=
  let words := classifyAll commonFlags arguments
  -- An ambiguous word is at fault wherever it stands.
  if words.contains .ambiguous then none else ofWords (arguments.zip words)

/-! ## Carrying out a command -/

/-- The file whose text a command needs. -/
def input? : Command → Option String
  | .run options => some (Path.normalize options.program)
  | _ => none

/-- The directory that a command exports to. -/
def target? (directory : String) : Command → Option String
  | .run options =>
    if options.directory.isEmpty then none else some (Path.resolve directory options.directory)
  | _ => none

/-- What a command finds. -/
structure Surroundings where
  /-- The directory that paths are seen from. -/
  directory : String
  /-- The text of the program file, if there is one. -/
  program : Option String := none
  /-- Whether a file stands in the place of the directory to export to. -/
  isBlocked : Bool := false
  /-- The encoding of the standard output. -/
  console : Text.Codec := .utf8

/-- Why a line is not printed. -/
inductive LineError where
  /-- A result has no text as JSON. -/
  | json (error : Json.WriteError)
  /-- The output has no bytes for the line. -/
  | encoding (error : Text.EncodeError)
  deriving DecidableEq

/-- The wording of a cause. -/
def LineError.message : LineError → String
  | .json e => e.message
  | .encoding e => e.message

/-- Why a command ends early. -/
inductive Failure where
  | noProgram (path : String)
  /-- A file stands in the place of the directory to export to. -/
  | fileExists (path : String)
  /-- A program text has an error that is not about the text. -/
  | compile (text : List Char) (error : CompileError)
  | file (error : FileError)
  | unwritable (error : LineError)
  /-- There is nothing to bridge tools to. -/
  | noBridge

/-- The wording of a failure. -/
def Failure.message : Failure → String
  | .noProgram path => s!"Program file not found: {path}"
  | .fileExists path => s!"[Errno 17] File exists: {Text.quote path}"
  | .compile text e => e.message text
  | .file e => e.message
  | .unwritable e => e.message
  | .noBridge =>
    "fastmcp is not installed. Install myblock-studio[mcp] or pass mcp_cls explicitly."

/-- What a command does: the lines that it prints, the files that it writes, and how it ends. -/
structure Outcome where
  lines : List String := []
  files : List File := []
  ending : Except Failure Nat := .ok 0

/-- What is printed. -/
def Outcome.printed (o : Outcome) : String := String.join (o.lines.map (· ++ "\n"))

/-- How a result is printed. -/
def resultStyle : Json.Style := { indent := some 2, ascii := false }

/-- The outcome of a command that shows a result after some lines. -/
def showResult (json : Bool) (lines : List String) (files : List File) (result : RunResult) :
    Outcome :=
  let ending := .ok (if result.isCompleted then 0 else 1)
  if json then
    match Json.print resultStyle (Payload.ofResult result) with
    | .ok text => ⟨lines ++ [text], files, ending⟩
    | .error e => ⟨lines, files, .error (.unwritable (.json e))⟩
  else ⟨lines ++ [result.output], files, ending⟩

/-- The settings of a stage with a scale of waiting. -/
def configOf (waitScale : Float) : StageConfig := { waitScale := .float waitScale }

/-- Runs a text and exports the run. -/
def runAndExport (options : RunOptions) (found : Surroundings) (source : String) : Outcome :=
  match (Export.ofSource (configOf options.waitScale) 1 source).1 with
  -- An error that is not about the text is told as a failure, not as an outcome of the text.
  | .error (.operation e) => { ending := .error (.compile source.toList (.operation e)) }
  | .error .nullCharacter => { ending := .error (.compile source.toList .nullCharacter) }
  | .error e => { lines := [s!"Error: {e.message source.toList}"], ending := .ok 1 }
  | .ok exported =>
    let directory := Path.resolve found.directory options.directory
    if found.isBlocked then
      { ending := .error (.fileExists (Path.normalize options.directory)) }
    else
      let files := exported.files.map fun f => { f with name := directory ++ "/" ++ f.name }
      match exported.error with
      | some e => { files := files, ending := .error (.file e) }
      | none =>
        showResult options.json [s!"Exported run trace to: {directory}"] files exported.result

/-- Runs a text. -/
def runText (options : RunOptions) (source : String) : Outcome :=
  let run : Run := { runId := 1, source := .text source, config := configOf options.waitScale }
  showResult options.json [] [] run.finish

/-- Runs a program file, whose line ends all count as one kind. -/
def runFile (options : RunOptions) (found : Surroundings) : Outcome :=
  match found.program with
  | none => { ending := .error (.noProgram (Path.normalize options.program)) }
  | some text =>
    let source := String.ofList (Text.unifyNewlines text.toList)
    if options.directory.isEmpty then runText options source
    else runAndExport options found source

/-- The lines that list a sample. -/
def sampleLines (verbose : Bool) (s : Sample) : List String :=
  s!"{s.title}: {s.description}" ::
    (if verbose then (Text.lines s.source).map fun line => "    " ++ String.ofList line else [])

/-- The lines before the first one that an output has no bytes for, and why it has none. -/
def encodable (codec : Text.Codec) : List String → List String × Option Text.EncodeError
  | [] => ([], none)
  | line :: rest =>
    match codec.encodeError? line with
    | some e => ([], some e)
    | none =>
      let (lines, error) := encodable codec rest
      (line :: lines, error)

/-- An outcome on an output with an encoding: a line without bytes ends the command. -/
def Outcome.shownOn (codec : Text.Codec) (o : Outcome) : Outcome :=
  let shown := encodable codec o.lines
  { o with
    lines := shown.1
    ending := match shown.2 with
      | some e => .error (.unwritable (.encoding e))
      | none => o.ending }

/-- What a command does if its output takes every line. -/
def outcome (found : Surroundings) : Command → Outcome
  | .help => { lines := ["usage: myblock [-h] [--log-level LEVEL] run | samples | mcp"] }
  | .run options => runFile options found
  | .samples verbose => { lines := Sample.all.flatMap (sampleLines verbose) }
  | .bridge .. => { ending := .error .noBridge }

/-- Carries out a command. -/
def execute (found : Surroundings) (command : Command) : Outcome :=
  (outcome found command).shownOn found.console

end Command

end SpriteStage

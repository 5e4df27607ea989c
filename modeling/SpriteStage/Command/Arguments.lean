/-!
# Reading command lines

The words of a command line are options and plain words.  An option is known by its names, of which a
long one may be cut short as long as it stays unambiguous; its value is the next word or follows an
equals sign.  After a lone `--` all words are plain.  A word that looks like a negative number is
plain.

## Main definitions

* `classify` tells what a word is
* `readOptions` reads the words of a command line
-/

namespace SpriteStage.Command

/-- An option that a command knows. -/
structure Flag where
  names : List String
  takesValue : Bool
  deriving DecidableEq, Repr

/-- The name that an option is listed by: its last one. -/
def Flag.key (f : Flag) : String := f.names.getLastD ""

/-- What a word is. -/
inductive Word where
  | plain (text : String)
  /-- The lone `--`. -/
  | separator
  /-- A known option; `attached` is the value that is written in the same word. -/
  | option (flag : Flag) (isShort : Bool) (attached : Option String)
  /-- An option that is not known. -/
  | unknown
  /-- Several options could be meant. -/
  | ambiguous
  deriving DecidableEq, Repr

/-- A word in two parts, before and after its first equals sign. -/
def splitEquals (word : List Char) : List Char × Option (List Char) :=
  match word.dropWhile (· ≠ '=') with
  | [] => (word, none)
  | _ :: value => (word.takeWhile (· ≠ '='), some value)

/-- Whether a word looks like a negative number: a minus, and digits with at most one point, which is
    followed by a digit. -/
def isNegativeNumber : List Char → Bool
  | '-' :: rest =>
    let places := rest.dropWhile Char.isDigit
    match places with
    | [] => !rest.isEmpty
    | '.' :: digits => !digits.isEmpty && digits.all Char.isDigit
    | _ => false
  | _ => false

/-- The options with their names. -/
def namesOf (flags : List Flag) : List (List Char × Flag) :=
  flags.flatMap fun f => f.names.map fun n => (n.toList, f)

/-- Whether a name is short: one dash and a letter. -/
def isShortName (name : List Char) : Bool := name.length = 2

/-- The options that a long word can mean. -/
def longMeanings (flags : List Flag) (word : List Char) : List Word :=
  let (start, value) := splitEquals word
  ((namesOf flags).filter fun n => start.isPrefixOf n.1).map fun n =>
    .option n.2 (isShortName n.1) (value.map String.ofList)

/-- The options that a word with one dash can mean: a short one with a value behind it. -/
def shortMeanings (flags : List Flag) (word : List Char) : List Word :=
  ((namesOf flags).filter fun n => n.1 = word.take 2 || word.isPrefixOf n.1).map fun n =>
    .option n.2 (isShortName n.1)
      (if n.1 = word.take 2 then some (String.ofList (word.drop 2)) else none)

/-- What a word means that is no full name of an option. -/
def abbreviated (flags : List Flag) (word : List Char) : Word :=
  let meanings := match word with
    | '-' :: '-' :: _ => longMeanings flags word
    | _ => shortMeanings flags word
  match meanings with
  | [meaning] => meaning
  | [] => if isNegativeNumber word || word.contains ' ' then .plain (.ofList word) else .unknown
  | _ => .ambiguous

/-- The option with a name. -/
def named? (flags : List Flag) (name : List Char) : Option Flag :=
  ((namesOf flags).find? (·.1 = name)).map (·.2)

/-- What a word of a command line is. -/
def classify (flags : List Flag) (text : String) : Word :=
  let word := text.toList
  match word with
  | '-' :: _ :: _ =>
    if word = ['-', '-'] then .separator
    else match named? flags word with
      | some flag => .option flag (isShortName word) none
      | none =>
        let (name, value) := splitEquals word
        match value.isSome, named? flags name with
        | true, some flag => .option flag (isShortName name) (value.map String.ofList)
        | _, _ => abbreviated flags word
  | _ => .plain text

/-- The words of a command line; those after a separator are plain. -/
def classifyAll (flags : List Flag) : List String → List Word
  | [] => []
  | text :: rest =>
    match classify flags text with
    | .separator => .separator :: rest.map .plain
    | word => word :: classifyAll flags rest

/-- What a command line says: the options with their values, and the plain words. -/
structure Said where
  options : List (String × String) := []
  words : List String := []
  deriving DecidableEq, Repr

/-- Adds an option to what is said. -/
def Said.option (key value : String) (s : Said) : Said :=
  { s with options := (key, value) :: s.options }

/-- The value of an option; what is said last counts. -/
def Said.value? (s : Said) (key : String) : Option String :=
  (s.options.reverse.find? (·.1 = key)).map (·.2)

/-- Whether an option is said. -/
def Said.has (s : Said) (key : String) : Bool := (s.value? key).isSome

/-- The options that letters after a dash stand for: all but the last must take no value. -/
def readLetters (flags : List Flag) : List Char → Option (List String)
  | [] => some []
  | c :: rest => do
    let flag ← named? flags ['-', c]
    if flag.takesValue then none
    return flag.key :: (← readLetters flags rest)

/-- What the words of a command line say, unless they cannot be read. -/
def readOptions (flags : List Flag) : List Word → Option Said
  | [] => some {}
  | .plain text :: rest => do
    let said ← readOptions flags rest
    return { said with words := text :: said.words }
  | .separator :: rest => readOptions flags rest
  | .unknown :: _ | .ambiguous :: _ => none
  | .option flag isShort (some value) :: rest => do
    let said ← readOptions flags rest
    if flag.takesValue then return said.option flag.key value
    -- What is attached to a short option without a value are the letters of others.
    if isShort then
      let keys ← readLetters flags value.toList
      return (flag.key :: keys).foldr (fun key s => s.option key "") said
    none
  | .option flag _ none :: .plain value :: rest =>
    if flag.takesValue then (readOptions flags rest).map (·.option flag.key value)
    else do
      let said ← readOptions flags rest
      return { said with words := value :: said.words }.option flag.key ""
  | .option flag _ none :: rest => do
    if flag.takesValue then none
    return (← readOptions flags rest).option flag.key ""

end SpriteStage.Command

/-
**The command line.**

The words after the name of the program say what to do. Options may stand before and after the name
of a command; those after it belong to the command. An option that takes a value has it in the same
word or in the next one, and it is looked at only when the next option or the end of the words
settles it. After the separator `--` no word is an option any more.

* `Command`, `CommandLine`: what the words can ask for;
* `UsageError`: why words cannot be followed; asking for help or the version is one of the reasons;
* `Word.ofText`: the shape of a word;
* `Given.step`: what one more word adds to what was given;
* `CommandLine.ofWords`: the whole command line.
-/

namespace AccessAudit

/-! ### What can be asked for -/

/-- What the program is to do. -/
inductive Command where
  /-- Carry out the checks of the configuration, or those of one name. -/
  | check (name? : Option String) (json : Bool)
  /-- Look at the configuration. -/
  | validateConfig
  /-- See whether a pattern covers an action. -/
  | compare (action pattern : String)
  deriving DecidableEq, Repr

/-- What the words after the name of the program ask for. -/
structure CommandLine where
  /-- The file of the configuration, if one is named. -/
  config? : Option String := none
  command : Command
  deriving DecidableEq, Repr

/-- Why the words do not lead to a command. -/
inductive UsageError where
  | helpWanted
  | versionWanted
  /-- There is nothing to go by. -/
  | nothingGiven
  /-- There are options but no command. -/
  | missingCommand
  | unknownCommand (word : String)
  | unexpectedWord (word : String)
  /-- An option has no value, or one that it cannot have. -/
  | invalidValue (option : String)
  /-- A value is attached to an option that takes none. -/
  | needlessValue (option : String)
  | repeatedOption (option : String)
  /-- A command lacks some of its words. -/
  | missingWords
  deriving DecidableEq, Repr

namespace UsageError

/-- The words for the reason. -/
def message : UsageError → String
  | helpWanted => "help is wanted"
  | versionWanted => "the version is wanted"
  | nothingGiven => "a command is needed: check, validate-config or match"
  | missingCommand => "a command is needed: check, validate-config or match"
  | unknownCommand word => "there is no command '" ++ word ++ "'"
  | unexpectedWord word => "unexpected argument '" ++ word ++ "'"
  | invalidValue option => "--" ++ option ++ " needs a value"
  | needlessValue option => "--" ++ option ++ " takes no value"
  | repeatedOption option => "--" ++ option ++ " is given more than once"
  | missingWords => "an action and a pattern are needed"

end UsageError

/-! ### Places and options -/

/-- The part of the command line that a word stands in: before a command, or after its name. -/
inductive Place where
  | program
  | check
  | validateConfig
  | compare
  deriving DecidableEq, Repr

/-- The part of the command line that the name of a command begins. -/
def Place.ofName? : String → Option Place
  | "check" => some .check
  | "validate-config" => some .validateConfig
  | "match" => some .compare
  | _ => none

/-- The word that asks for help in place of a command. -/
def helpCommand : String := "help"

/-- A word that may stand where a command is expected. -/
def isCommandName (word : String) : Bool :=
  word == helpCommand || (Place.ofName? word).isSome

/-- An option that takes a value. -/
inductive Setting where
  | config
  | name
  deriving DecidableEq, Repr

/-- An option. -/
inductive Flag where
  | setting (which : Setting)
  | json
  | help
  | version
  deriving DecidableEq, Repr

/-- The name of an option that takes a value. -/
def Setting.label : Setting → String
  | .config => "config"
  | .name => "name"

/-- The name of an option, which follows two dashes. -/
def Flag.label : Flag → String
  | .setting which => which.label
  | .json => "json"
  | .help => "help"
  | .version => "version"

/-- The letter of an option, which follows one dash. -/
def Flag.letter? : Flag → Option Char
  | .setting .config => some 'c'
  | .setting .name => some 'n'
  | .json => none
  | .help => some 'h'
  | .version => some 'V'

/-- The options of a part of the command line. -/
def Place.flags : Place → List Flag
  | .program => [.setting .config, .help, .version]
  | .check => [.setting .config, .setting .name, .json, .help]
  | .validateConfig => [.setting .config, .help]
  | .compare => [.setting .config, .help]

/-- The option of a part that has the name. -/
def Place.flagNamed? (place : Place) (name : String) : Option Flag :=
  place.flags.find? fun flag => flag.label == name

/-- The option of a part that has the letter. -/
def Place.flagLettered? (place : Place) (letter : Char) : Option Flag :=
  place.flags.find? fun flag => flag.letter? == some letter

/-! ### Words -/

/-- The shape of a word before the separator. -/
inductive Word where
  | separator
  /-- Two dashes and a name, with the value after an equals sign. -/
  | long (name : String) (value? : Option String)
  /-- One dash and a letter, with what follows the letter. -/
  | short (letter : Char) (attached : List Char)
  | plain
  deriving DecidableEq, Repr

/-- The name and the value around the first equals sign. -/
def splitAtEquals (cs : List Char) : String × Option String :=
  (String.ofList (cs.takeWhile (· != '=')),
    ((cs.dropWhile (· != '=')).tail?).map String.ofList)

/-- The shape of a word. A dash alone is a plain word. -/
def Word.ofText (text : String) : Word :=
  match text.toList with
  | ['-', '-'] => .separator
  | '-' :: '-' :: rest => .long (splitAtEquals rest).1 (splitAtEquals rest).2
  | '-' :: letter :: attached => .short letter attached
  | _ => .plain

/-- The value that follows a letter in the same word, with or without an equals sign. -/
def attachedValue? : List Char → Option String
  | [] => none
  | '=' :: value => some (String.ofList value)
  | value => some (String.ofList value)

/-! ### What was given -/

/-- An option that is not settled yet. -/
structure Pending where
  setting : Setting
  value? : Option String := none
  deriving DecidableEq, Repr

/-- What the words of one part have given so far. -/
structure Given where
  config? : Option String := none
  name? : Option String := none
  json : Bool := false
  /-- The words that are no options, in order. -/
  words : List String := []
  pending? : Option Pending := none
  /-- Whether the separator has passed. -/
  verbatim : Bool := false
  deriving DecidableEq, Repr

namespace Given

/-- An option still needs its value. -/
def isAwaiting (given : Given) : Bool :=
  given.pending?.any fun pending => pending.value?.isNone

/-- Give an option its value, once. The path of a file is not empty, but a name may be. -/
def set (given : Given) (setting : Setting) (value : String) : Except UsageError Given :=
  match setting with
  | .config =>
    if given.config?.isSome then .error (.repeatedOption setting.label)
    else if value.isEmpty then .error (.invalidValue setting.label)
    else .ok { given with config? := some value }
  | .name =>
    if given.name?.isSome then .error (.repeatedOption setting.label)
    else .ok { given with name? := some value }

/-- Settle the option that is not settled yet. -/
def settle (given : Given) : Except UsageError Given :=
  match given.pending? with
  | none => .ok given
  | some { setting, value? := none } => .error (.invalidValue setting.label)
  | some { setting, value? := some value } => { given with pending? := none }.set setting value

/-- Take an option that has its value in the same word or has none there. -/
def takeSetting (given : Given) (setting : Setting) : Option String → Except UsageError Given
  | some value => do (← given.settle).set setting value
  | none => do return { ← given.settle with pending? := some { setting } }

/-- Take an option that has no value. -/
def takeSwitch (given : Given) (flag : Flag) : Except UsageError Given := do
  let settled ← given.settle
  match flag with
  | .help => throw .helpWanted
  | .version => throw .versionWanted
  | .json | .setting _ =>
    if settled.json then throw (.repeatedOption flag.label)
    else return { settled with json := true }

/-- Take an option that is written by its name. -/
def takeLong (place : Place) (given : Given) (name : String) (value? : Option String) :
    Except UsageError Given :=
  match place.flagNamed? name with
  | none => .error (.unexpectedWord name)
  | some (.setting setting) => given.takeSetting setting value?
  | some flag => if value?.isSome then .error (.needlessValue name) else given.takeSwitch flag

/-- Take an option that is written by its letter. No option without a value that has a letter lets
the reading go on, so nothing is lost of what follows it. -/
def takeShort (place : Place) (given : Given) (letter : Char) (attached : List Char) :
    Except UsageError Given :=
  match place.flagLettered? letter with
  | none => .error (.unexpectedWord (String.singleton letter))
  | some (.setting setting) => given.takeSetting setting (attachedValue? attached)
  | some flag => given.takeSwitch flag

/-- Take a word that is no option. Only the comparison has words of its own, two of them. -/
def takePlain (place : Place) (given : Given) (text : String) : Except UsageError Given :=
  match place with
  | .compare =>
    if given.words.length < 2 then do
      let settled ← given.settle
      return { settled with words := settled.words ++ [text] }
    else .error (.unexpectedWord text)
  | .program =>
    if given.verbatim && isCommandName text then .error (.unexpectedWord text)
    else .error (.unknownCommand text)
  | .check | .validateConfig => .error (.unexpectedWord text)

/-- Take one more word. -/
def step (place : Place) (given : Given) (text : String) : Except UsageError Given :=
  if given.verbatim then given.takePlain place text
  else
    match Word.ofText text with
    | .separator => .ok { given with verbatim := true }
    | .long name value? => given.takeLong place name value?
    | .short letter attached => given.takeShort place letter attached
    | .plain =>
      match given.pending? with
      | some { setting, value? := none } =>
        .ok { given with pending? := some { setting, value? := some text } }
      | _ => given.takePlain place text

/-- The command that the words after its name ask for. -/
def command (place : Place) (given : Given) : Except UsageError Command :=
  match place with
  | .program => .error .missingCommand
  | .check => .ok (.check given.name? given.json)
  | .validateConfig => .ok .validateConfig
  | .compare =>
    match given.words with
    | [action, pattern] => .ok (.compare action pattern)
    | _ => .error .missingWords

end Given

/-! ### The whole command line -/

/-- What comes of asking for help in place of a command: it may name one command. -/
def helpOutcome : List String → UsageError
  | [] => .helpWanted
  | [word] => if isCommandName word then .helpWanted else .unknownCommand word
  | word :: other :: _ => .unknownCommand (if isCommandName word then other else word)

/-- Read the words of a command and settle what was given before it. The file of the configuration
that is named after the command counts. -/
def readCommand (outer : Given) (place : Place) (words : List String) :
    Except UsageError CommandLine := do
  let inner ← words.foldlM (Given.step place) {}
  let inner ← inner.settle
  let command ← inner.command place
  let outer ← outer.settle
  return { config? := inner.config? <|> outer.config?, command }

/-- Read the words up to the name of a command and all after it. -/
def readProgram (given : Given) : List String → Except UsageError CommandLine
  | [] => do
    let settled ← given.settle
    throw (if settled.config?.isNone then .nothingGiven else .missingCommand)
  | text :: rest =>
    if given.verbatim || given.isAwaiting then do readProgram (← given.step .program text) rest
    else if text = helpCommand then .error (helpOutcome rest)
    else
      match Place.ofName? text with
      | some place => readCommand given place rest
      | none => do readProgram (← given.step .program text) rest

/-- The command line of the words after the name of the program. -/
def CommandLine.ofWords (words : List String) : Except UsageError CommandLine :=
  readProgram {} words

end AccessAudit

import HandlerGuard.Text.Basic

/-!
The command line.

Options may stand anywhere behind the program's name; those of the whole program may also stand behind
the name of a command. Each option is given once at most before that name and once at most behind it.
Words are read from the first to the last, and the first fault is reported; what a word leaves open is
settled when the next option or the end is reached.
-/
namespace HandlerGuard

/-- Options of the whole program. -/
structure ProgramOptions where
  verbose : Bool := false
  quiet : Bool := false
  noColor : Bool := false
  config : Option Text := none
deriving DecidableEq, Repr

/-- What the transform command is asked to do. -/
structure TransformOptions where
  file : Text
  id : Option Text
  dev : Bool
  out : Option Text
  map : Option Text
deriving DecidableEq, Repr

/-- What the scan command is asked to do. -/
structure ScanOptions where
  files : List Text
  id : Option Text
deriving DecidableEq, Repr

/-- A command. -/
inductive Command where
  | transform (options : TransformOptions)
  | scan (options : ScanOptions)
  | check (json : Bool)
deriving DecidableEq, Repr

/-- A command with the options of the whole program. -/
structure Invocation where
  options : ProgramOptions
  command : Command
deriving DecidableEq, Repr

/-- Why a command line runs no command. -/
inductive ArgumentIssue where
  | displayHelp
  | displayVersion
  | nothingAsked
  | missingCommand
  | unknownCommand
  | missingFile
  | conflict
  | unknownArgument
  | missingValue
  | surplusValue
deriving DecidableEq, Repr

namespace Arguments

/-- An option of the command line. -/
inductive OptionName where
  | verbose
  | quiet
  | noColor
  | config
  | id
  | dev
  | out
  | map
  | json
  | help
  | version
deriving DecidableEq, Repr

/-- What stands behind an option. -/
inductive Operand where
  | nothing
  | text
  /-- A text that is not empty. -/
  | path
deriving DecidableEq, Repr

def OptionName.operand : OptionName → Operand
  | config => .path
  | out => .path
  | map => .path
  | id => .text
  | _ => .nothing

/-- The name of a command. -/
inductive CommandName where
  | transform
  | scan
  | check
deriving DecidableEq, Repr

def commandNames : List (Text × CommandName) :=
  [("transform".toList, .transform), ("scan".toList, .scan), ("check".toList, .check)]

/-- The command that explains others. -/
def helpCommand : Text := "help".toList

/-- The options of the whole program by their long names. -/
def programOptions : List (Text × OptionName) :=
  [("verbose".toList, .verbose), ("quiet".toList, .quiet), ("no-color".toList, .noColor),
    ("config".toList, .config), ("help".toList, .help)]

/-- The options by their long names before the name of a command, or behind it. -/
def longOptions : Option CommandName → List (Text × OptionName)
  | none => programOptions ++ [("version".toList, .version)]
  | some .transform =>
      programOptions ++
        [("id".toList, .id), ("dev".toList, .dev), ("out".toList, .out), ("map".toList, .map)]
  | some .scan => programOptions ++ [("id".toList, .id)]
  | some .check => programOptions ++ [("json".toList, .json)]

/-- The options by their letters before the name of a command, or behind it. -/
def shortOptions : Option CommandName → List (Char × OptionName)
  | none =>
      [('v', .verbose), ('q', .quiet), ('c', .config), ('h', .help), ('V', .version)]
  | some .transform =>
      [('v', .verbose), ('q', .quiet), ('c', .config), ('h', .help), ('o', .out)]
  | some _ => [('v', .verbose), ('q', .quiet), ('c', .config), ('h', .help)]

/-- How many files a command takes at most; none means any number. -/
def fileLimit : Option CommandName → Option Nat
  | some .scan => none
  | some .transform => some 1
  | _ => some 0

/-- What is not settled yet. -/
inductive Pending where
  | nothing
  /-- An option whose operand is expected next. -/
  | awaiting (option : OptionName)
  /-- An option and its operand. -/
  | operand (option : OptionName) (value : Text)
  /-- Files. -/
  | files (paths : List Text)
deriving DecidableEq, Repr

/-- What was read on one side of the name of a command. -/
structure Reading where
  level : Option CommandName
  flags : List OptionName := []
  values : List (OptionName × Text) := []
  files : List Text := []
  pending : Pending := .nothing
  /-- Two dashes were read: only files follow. -/
  onlyFiles : Bool := false
deriving DecidableEq, Repr

namespace Reading

def has (r : Reading) (option : OptionName) : Bool :=
  r.flags.contains option || (r.values.lookup option).isSome

/-- Nothing was given. -/
def isBare (r : Reading) : Bool := r.flags.isEmpty && r.values.isEmpty && r.files.isEmpty

def addValue (r : Reading) (option : OptionName) (value : Text) : Except ArgumentIssue Reading :=
  if r.has option then .error .conflict
  else if option.operand = .path && value.isEmpty then .error .missingValue
  else .ok { r with values := r.values ++ [(option, value)] }

def settle (r : Reading) : Except ArgumentIssue Reading :=
  let done := { r with pending := .nothing }
  match r.pending with
  | .nothing => .ok done
  | .awaiting _ => .error .missingValue
  | .operand option value => done.addValue option value
  | .files paths =>
      if paths.any List.isEmpty then .error .missingValue
      else .ok { done with files := done.files ++ paths }

def addFlag (r : Reading) (option : OptionName) : Except ArgumentIssue Reading := do
  let r ← r.settle
  match option with
  | .help => .error .displayHelp
  | .version => .error .displayVersion
  | option =>
      if r.has option then .error .conflict else .ok { r with flags := r.flags ++ [option] }

/-- Adds an option whose operand is attached to it, or expected next. -/
def addOption (r : Reading) (option : OptionName) (attached : Option Text) :
    Except ArgumentIssue Reading := do
  let r ← r.settle
  match attached with
  | some value => r.addValue option value
  | none => .ok { r with pending := .awaiting option }

/-- Reads the word of a long option, without its dashes. -/
def readLong (r : Reading) (word : Text) : Except ArgumentIssue Reading :=
  let (name, attached) := word.splitFirst '='
  match (longOptions r.level).lookup name with
  | none => .error .unknownArgument
  | some option =>
      if option.operand = .nothing then
        if attached.isSome then .error .surplusValue else r.addFlag option
      else r.addOption option attached

/-- Reads the letters of short options. What follows the letter of an option with an operand is the
operand. -/
def readShort (r : Reading) : Text → Except ArgumentIssue Reading
  | [] => .ok r
  | letter :: rest =>
      match (shortOptions r.level).lookup letter with
      | none => .error .unknownArgument
      | some option =>
          if option.operand = .nothing then do
            let r ← r.addFlag option
            r.readShort rest
          else
            match rest with
            | [] => r.addOption option none
            | '=' :: value => r.addOption option (some value)
            | value => r.addOption option (some value)

def readFile (r : Reading) (word : Text) : Except ArgumentIssue Reading :=
  let known :=
    match r.pending with
    | .files paths => r.files.length + paths.length
    | _ => r.files.length
  if (fileLimit r.level).any (· ≤ known) then
    if r.level.isNone && !(r.onlyFiles && ((commandNames.lookup word).isSome || word = helpCommand))
    then .error .unknownCommand
    else .error .unknownArgument
  else
    match r.pending with
    | .files paths => .ok { r with pending := .files (paths ++ [word]) }
    | _ => do
        let r ← r.settle
        .ok { r with pending := .files [word] }

def readWord (r : Reading) (word : Text) : Except ArgumentIssue Reading :=
  if r.onlyFiles then r.readFile word
  else
    match word with
    | ['-', '-'] => .ok { r with onlyFiles := true }
    | '-' :: '-' :: long => r.readLong long
    | '-' :: letter :: letters => r.readShort (letter :: letters)
    | _ =>
        match r.pending with
        | .awaiting option => .ok { r with pending := .operand option word }
        | _ => r.readFile word

def readWords (r : Reading) : List Text → Except ArgumentIssue Reading
  | [] => .ok r
  | word :: rest => do
      let r ← r.readWord word
      r.readWords rest

/-- A word may name a command here: no operand is expected and no dashes were read. -/
def allowsCommand (r : Reading) : Bool :=
  !r.onlyFiles &&
    match r.pending with
    | .awaiting _ => false
    | _ => true

end Reading

/-- The words before the name of a command, and that name with the words behind it. The command that
explains others is answered at once. -/
def splitCommand (r : Reading) :
    List Text → Except ArgumentIssue (Reading × Option (CommandName × List Text))
  | [] => .ok (r, none)
  | word :: rest =>
      if r.allowsCommand && word = helpCommand then
        match rest with
        | [] => .error .displayHelp
        | [name] =>
            if (commandNames.lookup name).isSome || name = helpCommand then .error .displayHelp
            else .error .unknownCommand
        | _ => .error .unknownCommand
      else
        match if r.allowsCommand then commandNames.lookup word else none with
        | some name => .ok (r, some (name, rest))
        | none => do
            let r ← r.readWord word
            splitCommand r rest

/-- Refuses options that exclude each other. -/
def checkConflicts (r : Reading) : Except ArgumentIssue Unit :=
  if r.has .verbose && r.has .quiet then .error .conflict else .ok ()

def readCommand (name : CommandName) (words : List Text) : Except ArgumentIssue Reading := do
  let start : Reading := { level := some name }
  let r ← start.readWords words
  let r ← r.settle
  checkConflicts r
  if name ≠ .check && r.files.isEmpty then .error .missingFile else .ok r

def commandOf (name : CommandName) (r : Reading) : Command :=
  match name with
  | .transform =>
      .transform
        { file := r.files.headD []
          id := r.values.lookup .id
          dev := r.has .dev
          out := r.values.lookup .out
          map := r.values.lookup .map }
  | .scan => .scan ⟨r.files, r.values.lookup .id⟩
  | .check => .check (r.has .json)

/-- The options of the whole program on both sides of the name of a command. The later file with
settings counts. -/
def optionsOf (before after : Reading) : ProgramOptions where
  verbose := before.has .verbose || after.has .verbose
  quiet := before.has .quiet || after.has .quiet
  noColor := before.has .noColor || after.has .noColor
  config := (after.values.lookup .config).or (before.values.lookup .config)

end Arguments

def Invocation.parse (words : List Text) : Except ArgumentIssue Invocation := do
  let (before, rest) ← Arguments.splitCommand { level := none } words
  match rest with
  | some (name, words) =>
      let after ← Arguments.readCommand name words
      let before ← before.settle
      Arguments.checkConflicts before
      .ok ⟨Arguments.optionsOf before after, Arguments.commandOf name after⟩
  | none =>
      let before ← before.settle
      if before.isBare then .error .nothingAsked else .error .missingCommand

end HandlerGuard

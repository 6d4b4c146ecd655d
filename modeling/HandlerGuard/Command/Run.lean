import HandlerGuard.CallSite.Listing
import HandlerGuard.Command.Arguments
import HandlerGuard.Command.Notice
import HandlerGuard.Json.Printer
import HandlerGuard.Settings.Loading
import HandlerGuard.Toml.Printer
import HandlerGuard.Transform

namespace HandlerGuard

/-- Why a command stops. -/
inductive CommandError where
  | settings (cause : SettingsError)
  | edit (cause : EditError)
  | access (path : Text) (cause : AccessError)
  /-- One id was given for several files. -/
  | idForSeveral (count : Nat)
  | notText (path : Text)
deriving Repr

namespace CommandError

/-- The error in words, where it has its own. -/
def message? : CommandError → Option Text
  | settings cause => cause.message?.map ("Configuration error: ".toList ++ ·)
  | edit cause => some ("Transform error: ".toList ++ cause.message)
  | access path cause =>
      some ("Failed to access ".toList ++ path ++ ": ".toList ++ cause.message)
  | idForSeveral count =>
      some
        ("--id applies to a single file, but ".toList ++ Text.ofNat count ++
          " files were given".toList)
  | notText path => some (path ++ " is not valid UTF-8".toList)

def code? : CommandError → Option Text
  | settings cause => some cause.code
  | edit cause => cause.code
  | _ => none

def help? : CommandError → Option Text
  | settings cause => cause.help
  | edit cause => cause.help
  | _ => none

end CommandError

/-- What a command has done so far. -/
structure Progress where
  workspace : Workspace
  printed : Text := []
  notices : List Notice := []
deriving DecidableEq, Repr

/-- A step of a command: what it has done when the step ends, and what the step gives or why the command
stops. -/
abbrev Action (α : Type) := Progress → Progress × Except CommandError α

namespace Action

/-- A step that does nothing. -/
def pure {α : Type} (a : α) : Action α := fun p => (p, .ok a)

/-- One step after another. -/
def bind {α β : Type} (x : Action α) (f : α → Action β) : Action β := fun p =>
  match x p with
  | (p, .ok a) => f a p
  | (p, .error e) => (p, .error e)

instance : Monad Action where
  pure := Action.pure
  bind := Action.bind

def lift {ε α : Type} (wrap : ε → CommandError) (result : Except ε α) : Action α := fun p =>
  (p, result.mapError wrap)

def print (t : Text) : Action Unit := fun p => ({ p with printed := p.printed ++ t }, .ok ())

def tell (notice : Notice) : Action Unit := fun p =>
  ({ p with notices := p.notices ++ [notice] }, .ok ())

def readText (path : Text) : Action Text := fun p =>
  match p.workspace.read path with
  | .error e => (p, .error (.access path e))
  | .ok bytes =>
      match Text.ofBytes? bytes with
      | some t => (p, .ok t)
      | none => (p, .error (.notText path))

def writeText (path t : Text) : Action Unit := fun p =>
  match p.workspace.write path t.toBytes with
  | .error e => (p, .error (.access path e))
  | .ok workspace => ({ p with workspace }, .ok ())

def hasPath (path : Text) : Action Bool := fun p => (p, .ok (p.workspace.hasPath path))

def loadTarget (environment : Environment) (config : Option Text) : Action Target := fun p =>
  (p, (Settings.load p.workspace environment config).mapError .settings)

/-- The transformer of the target that files and environment ask for. -/
def loadTransformer (environment : Environment) (config : Option Text) (mode : BuildMode) :
    Action Transformer := do
  let target ← loadTarget environment config
  lift (.settings ∘ .invalid) (Transformer.ofTarget target mode)

end Action

/-- The ending of a noun after a number. -/
def pluralEnding (n : Nat) : Text := if n = 1 then [] else ['s']

namespace Command

/-- Writes or prints what became of a module. -/
def deliver (options : TransformOptions) : TransformResult → Action Unit
  | .unchanged reason => Action.tell (.warning ("unchanged: ".toList ++ reason.message))
  | .transformed output => do
      match options.out with
      | some path =>
          Action.writeText path output.code
          Action.tell
            (.success
              ("Wrote ".toList ++ path ++ " (".toList ++ Text.ofNat output.guarded ++
                " handler".toList ++ pluralEnding output.guarded ++ " guarded)".toList))
      | none => Action.print output.code
      match options.map with
      | some path => Action.writeText path output.map.toJson
      | none => Action.pure ()

def runTransform (options : TransformOptions) (environment : Environment) (config : Option Text) :
    Action Unit := do
  let mode := if options.dev then BuildMode.development else BuildMode.production
  let transformer ← Action.loadTransformer environment config mode
  let code ← Action.readText options.file
  let result ← Action.lift .edit (transformer.transform (options.id.getD options.file) code)
  deliver options result

/-- Prints a line for each call. A call that does not fit the text stops the command. -/
def printCalls (path : Text) (index : LineIndex) : List CallSite → Action Unit
  | [] => Action.pure ()
  | site :: rest => do
      match site.line? path index with
      | some line => Action.print (line ++ ['\n'])
      | none => Action.lift .edit (.error (.unreadable site.span))
      printCalls path index rest

def skipNotice (file : Text) (reason : SkipReason) : Notice :=
  .info (file ++ ": skipped (".toList ++ reason.message ++ [')'])

/-- What is told at the end of a scan. -/
def scanSummary (total guardable : Nat) : Notice :=
  .success
    (Text.ofNat total ++ " call site".toList ++ pluralEnding total ++ " found, ".toList ++
      Text.ofNat guardable ++ " rewritable".toList)

/-- Lists the calls in files: their number, and how many of them are guardable. -/
def scanFiles (transformer : Transformer) (id : Option Text) : List Text → Action (Nat × Nat)
  | [] => Action.pure (0, 0)
  | file :: rest => do
      let code ← Action.readText file
      match transformer.scan (id.getD file) code with
      | .error reason =>
          Action.tell (skipNotice file reason)
          scanFiles transformer id rest
      | .ok sites =>
          printCalls file (LineIndex.ofText code) sites
          let (total, guardable) ← scanFiles transformer id rest
          Action.pure (sites.length + total, sites.countP CallSite.isGuardable + guardable)

/-- Lists the calls in files. -/
def runScan (options : ScanOptions) (environment : Environment) (config : Option Text) :
    Action Unit := do
  if options.id.isSome && 1 < options.files.length then
    Action.lift id (.error (.idForSeveral options.files.length))
  let transformer ← Action.loadTransformer environment config .production
  let (total, guardable) ← scanFiles transformer options.id options.files
  Action.tell (scanSummary total guardable)

def document (json : Bool) (target : Target) : Text :=
  (if json then Json.print target.toValue else Toml.print target.toValue).trimEnd

def runCheck (json : Bool) (environment : Environment) (config : Option Text) : Action Unit := do
  let usual ← Action.hasPath Settings.usualFile
  let checking (path : Text) : Notice := .info ("Checking ".toList ++ path ++ "...".toList)
  Action.tell
    (match config with
      | some path => checking path
      | none =>
          if usual then checking Settings.usualFile
          else .warning ("No ".toList ++ Settings.usualFile ++ " found, using defaults".toList))
  let target ← Action.loadTarget environment config
  let _ ← Action.lift (.settings ∘ .invalid) (Transformer.ofTarget target .production)
  Action.print (document json target ++ ['\n'])
  Action.tell (.success "Configuration is valid!".toList)

end Command

def Invocation.run (invocation : Invocation) (environment : Environment) : Action Unit :=
  match invocation.command with
  | .transform options => Command.runTransform options environment invocation.options.config
  | .scan options => Command.runScan options environment invocation.options.config
  | .check json => Command.runCheck json environment invocation.options.config

end HandlerGuard

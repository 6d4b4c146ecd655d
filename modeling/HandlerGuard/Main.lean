import HandlerGuard.Command.Log
import HandlerGuard.Command.Program

namespace HandlerGuard

/-- The variable that `NAME=value` sets. -/
def variableOf? (entry : Text) : Option (Text × Text) :=
  match entry.splitFirst '=' with
  | (name, some value) => some (name, value)
  | (_, none) => none

/-- The variables that are set, as the system keeps them for the process. There are none where the system
does not show them as a file, and those that are no UTF-8 are passed over. -/
def readEnvironment : IO Environment := do
  match ← (IO.FS.readBinFile "/proc/self/environ").toBaseIO with
  | .ok bytes =>
      let entries := bytes.toList.splitOn 0
      return entries.filterMap fun entry => (Text.ofBytes? entry).bind variableOf?
  | .error _ => return []

def readPath (w : Workspace) (path : Text) : IO Workspace := do
  let name := String.ofList path
  match ← (IO.FS.readBinFile name).toBaseIO with
  | .ok bytes => return w.addFile path bytes.toList
  | .error _ =>
      match ← (IO.FS.realPath name).toBaseIO with
      | .ok real => if ← real.isDir then return w.addDirectory path else return w
      | .error _ => return w

def pathOf (location : Location) : Text :=
  match location with
  | first :: rest =>
      if first = Workspace.root then first ++ Text.join ['/'] rest else Text.join ['/'] location
  | [] => []

/-- Adds what is at a path and the directory around it. -/
def readAround (w : Workspace) (path : Text) : IO Workspace := do
  let parent := (Workspace.locationOf path).dropLast
  let w ← if parent.isEmpty then pure w else readPath w (pathOf parent)
  readPath w path

/-- The paths that a command may use. -/
def pathsOf (invocation : Invocation) : List Text :=
  let common := Settings.usualFile :: invocation.options.config.toList
  match invocation.command with
  | .transform options => options.file :: options.out.toList ++ options.map.toList ++ common
  | .scan options => options.files ++ common
  | .check _ => common

/-- What is known about the files that words may ask for. -/
def readWorkspace (words : List Text) : IO Workspace :=
  match Invocation.parse words with
  | .ok invocation => (pathsOf invocation).foldlM readAround Workspace.empty
  | .error _ => return Workspace.empty

/-- How the program is used. -/
def usageText : String :=
  String.intercalate "\n"
    ["Usage: prerender-kit [OPTIONS] <COMMAND>",
      "",
      "Commands:",
      "  transform  Transform a single file",
      "  scan       List target call sites without rewriting",
      "  check      Validate configuration and print the effective values",
      "",
      "Options:",
      "  -v, --verbose        Enable verbose logging",
      "  -q, --quiet          Suppress all output except errors",
      "      --no-color       Disable colored output",
      "  -c, --config <FILE>  Configuration file",
      "  -h, --help           Print help",
      "  -V, --version        Print version",
      ""]

def errorText (e : CommandError) : String :=
  String.ofList ((e.message?).getD "Configuration error: the settings cannot be read".toList)

/-- Shows what a command logs, as far as the flags and variables ask for it. It stands in front of what
the command tells. -/
def showLog (words : List Text) (environment : Environment) (workspace : Workspace) : IO Unit := do
  match Invocation.parse words with
  | .error _ => return
  | .ok invocation =>
      let options := invocation.options
      let filter := LogFilter.ofFlags options.verbose options.quiet environment
      -- nothing is logged above this level
      if filter.reaches .debug then
        let terminal ← (← IO.getStderr).isTty
        let colors := !options.noColor && (LogFilter.colors? environment).getD terminal
        for message in (invocation.log environment { workspace }).filter filter.shows do
          IO.eprint (String.ofList (message.render colors))

end HandlerGuard

open HandlerGuard in
/-- Runs the program. -/
def main (args : List String) : IO UInt32 := do
  let words := args.map String.toList
  let environment ← readEnvironment
  let before ← readWorkspace words
  let ending := runProgram words environment before
  for (location, content) in ending.progress.workspace.changedSince before do
    IO.FS.writeBinFile (String.ofList (pathOf location)) content.toByteArray
  -- the version, where it is asked for, is among what is printed
  IO.print (String.ofList ending.progress.printed)
  showLog words environment before
  IO.eprint (String.ofList (ending.progress.notices.flatMap Notice.render))
  match ending.issue with
  | some .displayHelp => IO.print usageText
  | some .displayVersion | none => pure ()
  | some _ => IO.eprint usageText
  match ending.error with
  | some e => IO.eprintln (errorText e)
  | none => pure ()
  return UInt32.ofNat ending.exit.toNat

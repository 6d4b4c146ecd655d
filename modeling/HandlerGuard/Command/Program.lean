import HandlerGuard.Command.Run

namespace HandlerGuard

def programName : Text := "prerender-kit".toList

/-- The name of the program and its version, as a line. -/
def versionLine : Text := programName ++ " 0.1.0\n".toList

/-- How the program ends. -/
inductive ExitCode where
  | success
  | failure
  /-- The command line cannot be read. -/
  | usage
  /-- The program was broken off. -/
  | aborted
deriving DecidableEq, Repr

def ExitCode.toNat : ExitCode → Nat
  | success => 0
  | failure => 1
  | usage => 2
  | aborted => 101

/-- What the program has done when it ends. -/
structure Ending where
  exit : ExitCode
  progress : Progress
  error : Option CommandError := none
  issue : Option ArgumentIssue := none
deriving Repr

/-- The exit code for a command line that runs no command. -/
def ArgumentIssue.exit : ArgumentIssue → ExitCode
  | displayHelp => .success
  | displayVersion => .success
  | _ => .usage

def CommandError.exit : CommandError → ExitCode
  | settings .splitCharacter => .aborted
  | edit (.unreadable _) => .aborted
  | _ => .failure

def runProgram (words : List Text) (environment : Environment) (workspace : Workspace) : Ending :=
  match Invocation.parse words with
  | .error issue =>
      let printed := if issue = .displayVersion then versionLine else []
      { exit := issue.exit, progress := { workspace, printed }, issue := some issue }
  | .ok invocation =>
      match invocation.run environment { workspace } with
      | (progress, .ok ()) => { exit := .success, progress }
      | (progress, .error e) => { exit := e.exit, progress, error := some e }

end HandlerGuard

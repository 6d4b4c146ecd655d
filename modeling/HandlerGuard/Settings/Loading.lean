import HandlerGuard.Json.Reader
import HandlerGuard.Settings.Decoding
import HandlerGuard.Settings.Environment
import HandlerGuard.Target.Validation
import HandlerGuard.Toml.Reader
import HandlerGuard.Workspace

namespace HandlerGuard

/-- Why no target is found. -/
inductive SettingsError where
  /-- The file that was named does not exist. -/
  | notFound (path : Text)
  /-- An escape in a variable has no place in its text. -/
  | splitCharacter
  /-- The file cannot be read as what its name says. -/
  | unreadable
  /-- The settings do not describe a target. -/
  | undecodable (cause : DecodingError)
  /-- The target cannot be worked with. -/
  | invalid (cause : TargetError)
deriving Repr

namespace SettingsError

/-- The error in words, where it has its own. -/
def message? : SettingsError → Option Text
  | notFound path => some ("config file not found: ".toList ++ path)
  | splitCharacter => none
  | unreadable => none
  | undecodable cause => some ("failed to load configuration: ".toList ++ cause.message)
  | invalid cause => some cause.message

def code : SettingsError → Text
  | notFound _ => "prerender::config::not_found".toList
  | splitCharacter => "prerender::config::extract".toList
  | unreadable => "prerender::config::extract".toList
  | undecodable _ => "prerender::config::extract".toList
  | invalid cause => cause.code

def readingHelp : Text :=
  "Check prerender.toml syntax and PRERENDER_* environment variables".toList

def help : SettingsError → Option Text
  | notFound _ => none
  | splitCharacter => some readingHelp
  | unreadable => some readingHelp
  | undecodable _ => some readingHelp
  | invalid cause => cause.help

end SettingsError

namespace Settings

def usualFile : Text := "prerender.toml".toList

def components (path : Text) : List Text :=
  (path.splitAll '/').filter fun c => !c.isEmpty && c ≠ ['.']

def displayPath (path : Text) : Text :=
  (if path.head? = some '/' then ['/'] else []) ++ Text.join ['/'] (components path)

/-- What stands after the last dot of the last component of a path. A dot in front of the component
does not count. -/
def extension? (path : Text) : Option Text :=
  match (components path).getLast? with
  | none => none
  | some name =>
      if name = ['.', '.'] then none
      else
        match Text.splitAll '.' (name.drop 1) with
        | [] => none
        | [_] => none
        | parts => parts.getLast?

def formatOf (path : Text) : FileFormat :=
  if extension? path = some "json".toList then .json else .toml

def parseTable? (format : FileFormat) (t : Text) : Option Value :=
  let value :=
    match format with
    | .json => Json.parse? t
    | .toml => Toml.parse? t
  match value with
  | some (.table entries) => some (.table entries)
  | _ => none

/-- The settings of a file. A directory has none: that a regular file of the same name is then looked for
in the directories above the current one is left out. -/
def fileSettings (w : Workspace) (path : Text) : Except SettingsError (Option Setting) :=
  match w.read path with
  | .error _ => .ok none
  | .ok bytes =>
      match (Text.ofBytes? bytes).bind (parseTable? (formatOf path)) with
      | some value => .ok (some (Setting.ofValue (.file (formatOf path) (displayPath path)) value))
      | none => .error .unreadable

/-- The file with settings that is looked at: the one that is named, which has to exist, or the one of
the usual name where it exists. -/
def sourceFile (w : Workspace) (path : Option Text) : Except SettingsError (Option Text) :=
  match path with
  | some path => if w.hasPath path then .ok (some path) else .error (.notFound path)
  | none => .ok (if w.hasPath usualFile then some usualFile else none)

def layered (w : Workspace) (environment : Environment) (path : Option Text) :
    Except SettingsError Setting := do
  let defaults := Setting.ofValue .defaults Target.standard.toValue
  let file ← sourceFile w path
  match environment.settings? with
  | none => .error .splitCharacter
  | some above =>
      let inFile ← file.elim (.ok none) (fileSettings w)
      .ok ((inFile.elim defaults defaults.merge).merge above)

def load (w : Workspace) (environment : Environment) (path : Option Text) :
    Except SettingsError Target := do
  let setting ← layered w environment path
  let target ← (Decoder.target false [] setting).mapError .undecodable
  target.validate.mapError .invalid
  .ok target

end Settings

end HandlerGuard

import HandlerGuard.Text.Utf8

/-!
Files and directories.

A path is a text with slashes between its components. Empty components and single dots stand for
nothing, two dots for the directory above. A path that begins with a slash starts at the root, any
other at the current directory. Every directory on the way to a file has to exist.

Two paths are taken for one file only if they come to the same components. There are no links, and where
the current directory stands below the root is not known, so that a relative path and an absolute one
never meet.
-/
namespace HandlerGuard

/-- The components from the current directory to a file or directory: first perhaps two dots, several
times, or a slash for the root, then names. -/
abbrev Location := List Text

/-- What is known about files and directories. -/
structure Workspace where
  files : List (Location × List UInt8)
  directories : List Location
deriving DecidableEq, Repr

/-- Why a file cannot be used. -/
inductive AccessError where
  | notFound
  | notDirectory
  | isDirectory
  | nameTooLong
  | nameWithNull
deriving DecidableEq, Repr

def AccessError.message : AccessError → Text
  | notFound => "No such file or directory (os error 2)".toList
  | notDirectory => "Not a directory (os error 20)".toList
  | isDirectory => "Is a directory (os error 21)".toList
  | nameTooLong => "File name too long (os error 36)".toList
  | nameWithNull => "file name contained an unexpected NUL byte".toList

/-- What a path leads to. -/
inductive Place where
  | file (location : Location) (content : List UInt8)
  | directory (location : Location)
  /-- Nothing, in a directory that exists. -/
  | vacant (location : Location)
deriving DecidableEq, Repr

namespace Workspace

def empty : Workspace := ⟨[], []⟩

def content? (w : Workspace) (location : Location) : Option (List UInt8) := w.files.lookup location

def above : Text := ['.', '.']

def root : Text := ['/']

/-- The location is a directory: the current one, one above it, the root, one that was made, or one on
the way to something. -/
def isDirectory (w : Workspace) (location : Location) : Bool :=
  location.all (· = above) || location = [root] || w.directories.any location.isPrefixOf ||
    w.files.any fun entry => location.isPrefixOf entry.1.dropLast

def locationAbove (location : Location) : Location :=
  if location.all (· = above) then location ++ [above]
  else if location = [root] then location
  else location.dropLast

/-- The longest name of a component, in bytes. -/
def nameLimit : Nat := 255

/-- Walks along components from a directory. `slash` tells that the path ends in a slash, so that it
has to lead to a directory. -/
def walk (w : Workspace) (slash : Bool) (location : Location) : List Text → Except AccessError Place
  | [] => .ok (.directory location)
  | component :: rest =>
      if component.isEmpty || component = ['.'] then w.walk slash location rest
      else if component = above then w.walk slash (locationAbove location) rest
      else if nameLimit < component.byteLength then .error .nameTooLong
      else
        let next := location ++ [component]
        let last := rest.all List.isEmpty
        if w.isDirectory next then w.walk slash next rest
        else
          match w.content? next with
          | some content =>
              if last && !slash then .ok (.file next content) else .error .notDirectory
          | none =>
              if last then
                if slash then .error .isDirectory else .ok (.vacant next)
              else .error .notFound

def startOf (path : Text) : Location × List Text :=
  match path with
  | '/' :: rest => ([root], Text.splitAll '/' rest)
  | _ => ([], Text.splitAll '/' path)

def locate (w : Workspace) (path : Text) : Except AccessError Place :=
  if path.contains '\x00' then .error .nameWithNull
  else if path.isEmpty then .error .notFound
  else
    let (start, components) := startOf path
    w.walk (path.getLast? = some '/') start components

/-- The path leads to a file or a directory. -/
def hasPath (w : Workspace) (path : Text) : Bool :=
  match w.locate path with
  | .ok (.file _ _) => true
  | .ok (.directory _) => true
  | _ => false

def read (w : Workspace) (path : Text) : Except AccessError (List UInt8) :=
  match w.locate path with
  | .ok (.file _ content) => .ok content
  | .ok (.directory _) => .error .isDirectory
  | .ok (.vacant _) => .error .notFound
  | .error .isDirectory => .error .notFound
  | .error e => .error e

def put (location : Location) (content : List UInt8) :
    List (Location × List UInt8) → List (Location × List UInt8)
  | [] => [(location, content)]
  | (key, old) :: rest =>
      if key = location then (location, content) :: rest else (key, old) :: put location content rest

/-- The workspace after a file was written at a path. -/
def write (w : Workspace) (path : Text) (content : List UInt8) : Except AccessError Workspace :=
  match w.locate path with
  | .ok (.file location _) => .ok { w with files := put location content w.files }
  | .ok (.vacant location) => .ok { w with files := put location content w.files }
  | .ok (.directory _) => .error .isDirectory
  | .error e => .error e

/-- The location that a path writes, whether or not anything is there. -/
def locationOf (path : Text) : Location :=
  let (start, components) := startOf path
  components.foldl
    (fun location component =>
      if component.isEmpty || component = ['.'] then location
      else if component = above then locationAbove location
      else location ++ [component])
    start

def addFile (w : Workspace) (path : Text) (content : List UInt8) : Workspace :=
  { w with files := put (locationOf path) content w.files }

def addDirectory (w : Workspace) (path : Text) : Workspace :=
  { w with directories := w.directories ++ [locationOf path] }

/-- The files that another workspace does not have with the same content. -/
def changedSince (w before : Workspace) : List (Location × List UInt8) :=
  w.files.filter fun entry => before.content? entry.1 ≠ some entry.2

end Workspace

end HandlerGuard

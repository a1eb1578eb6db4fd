import CompileOnLoad.Path

/-!
# File tables

A table of files and directories, with the place of the working directory.  A path is
followed one segment at a time, from the root or from the working directory: every segment
but the last must lead to a directory, and so must the last if a separator follows it.
-/

namespace CompileOnLoad

inductive FileNode where
  | file (bytes : List UInt8)
  | directory
  deriving DecidableEq, Repr

inductive FileError where
  | nulInPath
  | notFound
  | isDirectory
  | notDirectory
  | nameTooLong
  | notText
  deriving DecidableEq, Repr

def FileError.message : FileError -> String
  | nulInPath => "file name contained an unexpected NUL byte"
  | notFound => "No such file or directory (os error 2)"
  | isDirectory => "Is a directory (os error 21)"
  | notDirectory => "Not a directory (os error 20)"
  | nameTooLong => "File name too long (os error 36)"
  | notText => "stream did not contain valid UTF-8"

/-- A place in a file table, by the names on the way to it, innermost first. -/
abbrev Place := List (List UInt8)

/-- The files and directories that exist, each under its place.  The working directory and the
directories around it are no entries, as they always exist. -/
structure Files where
  entries : List (Place × FileNode) := []
  home : Place := []
  deriving DecidableEq, Repr

namespace Files

def at? (files : Files) (place : Place) : Option FileNode :=
  if place <:+ files.home then some .directory else files.entries.lookup place

def put (files : Files) (place : Place) (node : FileNode) : Files :=
  { files with entries := (place, node) :: files.entries.filter (·.1 ≠ place) }

/-- What a segment names in a directory; the root is its own parent. -/
def step (place : Place) (segment : List UInt8) : Except FileError Place :=
  if segment = [] ∨ segment = [Path.dot] then .ok place
  else if segment = [Path.dot, Path.dot] then .ok place.tail
  else if 255 < segment.length then .error .nameTooLong
  else .ok (segment :: place)

/-- There is a directory at the place. -/
def enter (files : Files) (place : Place) : Except FileError Unit :=
  match files.at? place with
  | some .directory => .ok ()
  | some (.file _) => .error .notDirectory
  | none => .error .notFound

/-- Walks along segments; the last one need not exist. -/
def walk (files : Files) : Place -> List (List UInt8) -> Except FileError Place
  | place, [] => .ok place
  | place, segment :: rest => do
    files.enter place
    walk files (← step place segment) rest

def start (files : Files) (p : Path) : Place :=
  if p.bytes.head? = some Path.slash then [] else files.home

def locate (files : Files) (p : Path) : Except FileError Place :=
  if p.bytes.contains 0 then .error .nulInPath
  else if p.bytes = [] then .error .notFound
  else if 4095 < p.bytes.length then .error .nameTooLong
  else files.walk (files.start p) (Path.segments p.bytes)

def readBytes (files : Files) (p : Path) : Except FileError (List UInt8) := do
  match files.at? (← files.locate p) with
  | none => .error .notFound
  | some .directory => .error .isDirectory
  | some (.file bytes) => .ok bytes

def readText (files : Files) (p : Path) : Except FileError String := do
  match Utf8.decode? (← files.readBytes p) with
  | some text => .ok (String.ofList text)
  | none => .error .notText

/-- The place of a file that can be written under a path: it exists, or its directory does. -/
def openForWriting (files : Files) (p : Path) : Except FileError Place := do
  let place ← files.locate p
  match files.at? place with
  | some .directory => .error .isDirectory
  | some (.file _) => .ok place
  | none => .ok place

/-- Opens a file for appending, and makes an empty one if there is none. -/
def openForAppending (files : Files) (p : Path) : Except FileError (Place × Files) := do
  let place ← files.openForWriting p
  match files.at? place with
  | some _ => .ok (place, files)
  | none => .ok (place, files.put place (.file []))

def append (files : Files) (place : Place) (bytes : List UInt8) : Files :=
  match files.at? place with
  | some (.file old) => files.put place (.file (old ++ bytes))
  | _ => files

def write (files : Files) (p : Path) (bytes : List UInt8) : Except FileError Files := do
  let place ← files.openForWriting p
  .ok (files.put place (.file bytes))

/-- Puts something under a path, and makes the directories on the way to it. -/
def install (files : Files) (p : Path) (node : FileNode) : Files :=
  let names := (Path.segments p.bytes).filter fun s => s ≠ [] ∧ s ≠ [Path.dot]
  let (place, files) := names.dropLast.foldl
    (fun (place, files) name => (name :: place, files.put (name :: place) .directory))
    (files.start p, files)
  match names.getLast? with
  | none => files
  | some name => files.put (name :: place) node

end Files
end CompileOnLoad

import VirtHost.Error
import VirtHost.Text.Utf8

/-! # Files in memory

* `Files`: the files and directories below a working directory.
* `Files.walk`: the place that a path leads to. Every step but the last needs a directory.
* `Files.readBytes`, `Files.read`, `Files.write`, `Files.fileExists`: the operations, with the cause of
  each failure.
-/

namespace VirtHost.Machine
set_option autoImplicit false

/-- What is at a place. -/
inductive File
  | bytes (content : List UInt8)
  | directory
  deriving DecidableEq

/-- The files and directories by their place, which is the names on the way to it. -/
structure Files where
  entries : List (List String × File) := []
  deriving DecidableEq

namespace Files

/-! ## Places -/

def root : String := "/"

/-- What is at a place. The working directory and the root are directories. -/
def entry? (files : Files) (place : List String) : Option File :=
  if place = [] ∨ place = [root] then some .directory
  else (files.entries.find? (·.1 = place)).map (·.2)

def longestName : Nat := 255

/-- The place that some steps lead to from a place. -/
def walk (files : Files) (place : List String) : List String → Except FileError (List String)
  | [] => .ok place
  | name :: rest =>
    match files.entry? place with
    | none => .error .missing
    | some (.bytes _) => .error .notDirectory
    | some .directory =>
      if longestName < name.utf8ByteSize then .error .nameTooLong
      else if name = "" ∨ name = "." then walk files place rest
      else if name = ".." then walk files place.dropLast rest
      else walk files (place ++ [name]) rest

def place (files : Files) (path : String) : Except FileError (List String) :=
  let steps := (path.toList.splitOn '/').map String.ofList
  if '\x00' ∈ path.toList then .error .nulInPath
  else
    match steps with
    | [""] => .error .missing
    | "" :: rest => files.walk [root] rest
    | steps => files.walk [] steps

/-! ## Operations -/

def readBytes (files : Files) (path : String) : Except FileError (List UInt8) := do
  let place ← files.place path
  match files.entry? place with
  | none => .error .missing
  | some .directory => .error .isDirectory
  | some (.bytes content) => .ok content

def read (files : Files) (path : String) : Except FileError String := do
  let content ← files.readBytes path
  match Text.Utf8.decodeStrict content with
  | some text => .ok text
  | none => .error .notText

def put (files : Files) (place : List String) (file : File) : Files :=
  ⟨(place, file) :: files.entries.filter (·.1 ≠ place)⟩

/-- A path without the slashes at its end. -/
def dropSlashes (path : String) : String :=
  String.ofList (path.toList.reverse.dropWhile (· = '/')).reverse

/-- Writes a file; what it held before is lost. A name with a slash at its
end can only be that of a directory. -/
def writeBytes (files : Files) (path : String) (content : List UInt8) :
    Except FileError Files :=
  match files.place path with
  | .ok place =>
    match files.entry? place with
    | some .directory => .error .isDirectory
    | _ => .ok (files.put place (.bytes content))
  | .error cause =>
    .error (if dropSlashes path ≠ path ∧ (files.place (dropSlashes path)).isOk then .isDirectory
      else cause)

def write (files : Files) (path content : String) : Except FileError Files :=
  files.writeBytes path (Text.Utf8.encode content)

/-- Whether a path leads to a file or a directory. -/
def fileExists (files : Files) (path : String) : Except FileError Bool :=
  match files.place path with
  | .ok place => .ok (files.entry? place).isSome
  | .error .missing => .ok false
  | .error cause => .error cause

/-- The files with something at a path, and with the directories on the way to it. -/
def add (files : Files) (path : String) (file : File) : Files :=
  let place := (path.toList.splitOn '/').map String.ofList |>.filter fun name => name ≠ "" ∧ name ≠ "."
  let ways := (List.range place.length).drop 1 |>.map place.take
  let files := ways.foldl (fun files way =>
    if (files.entry? way).isSome then files else files.put way .directory) files
  files.put place file

end Files
end VirtHost.Machine

import MetricsHarness.Text.Pieces
import MetricsHarness.Text.Utf8

/-!
# Trees of files

The files a run finds, as a value: entries by their absolute path, and the directory that relative
paths start from. Every directory on the way to an entry is an entry too (`Files.add` sees to it).

A path is followed part by part (`Files.find`). Empty parts and `.` stay where they are, `..` goes
up, and all of them need a directory to stand in; so a slash behind the name of a file is a fault.
What is written to has to be named as a file (`Files.findForWriting`).
-/

namespace MetricsHarness

/-- A place in a tree of files, as the names on the way to it. -/
abbrev Place := List String

/-- A file or a directory. -/
inductive Files.Entry where
  | file (content : Bytes) (executable : Bool)
  | directory
  deriving DecidableEq

/-- A tree of files and the directory that relative paths start from. -/
structure Files where
  entries : List (Place × Files.Entry)
  start : Place

namespace Files

/-- Why a path cannot be used. -/
inductive Fault where
  | notFound
  | notDirectory
  | isDirectory
  | denied
  | tooLong
  | nulByte
  | notText
  deriving DecidableEq, Repr

/-- The wording of a fault. -/
def Fault.message : Fault → String
  | .notFound => "No such file or directory (os error 2)"
  | .notDirectory => "Not a directory (os error 20)"
  | .isDirectory => "Is a directory (os error 21)"
  | .denied => "Permission denied (os error 13)"
  | .tooLong => "File name too long (os error 36)"
  | .nulByte => "file name contained an unexpected NUL byte"
  | .notText => "stream did not contain valid UTF-8"

/-- Whether a fault says that there is nothing at a path. -/
def Fault.isMissing : Fault → Bool
  | .notFound | .notDirectory | .tooLong | .nulByte => true
  | .isDirectory | .denied | .notText => false

/-- The entry at a place; the root is a directory. -/
def entry? (files : Files) (place : Place) : Option Entry :=
  if place.isEmpty then some .directory else files.entries.lookup place

/-- Adds the directories on the way to a place. -/
def addParents (files : Files) : Place → Place → Files
  | _, [] => files
  | _, [_] => files
  | above, name :: rest =>
    let here := above ++ [name]
    let files :=
      if (files.entry? here).isSome then files
      else { files with entries := (here, .directory) :: files.entries }
    addParents files here rest

/-- Adds an entry; one that is there already is replaced. -/
def add (files : Files) (place : Place) (entry : Entry) : Files :=
  let files := files.addParents [] place
  { files with entries := (place, entry) :: files.entries }

/-- The directories at the top of every tree. -/
def topNames : List String :=
  ["bin", "dev", "etc", "home", "proc", "root", "sys", "tmp", "usr", "var"]

/-- The place of a file that is always empty, whatever is written to it. -/
def emptyPlace : Place := ["dev", "null"]

/-- A tree with nothing in it that is not in every tree, and the directory that relative paths start
from. -/
def bare (start : Place) : Files :=
  let top := topNames.foldl (fun files name => files.add [name] .directory) (⟨[], start⟩ : Files)
  (top.add emptyPlace (.file [] false)).add start .directory

/-- The parts of a path between its slashes. -/
def parts (path : String) : List String := (Text.pieces '/' path.toList).map String.ofList

/-- Whether a path starts at the root. -/
def isAbsolute (path : String) : Bool := path.toList.head? == some '/'

/-- Follows the parts of a path from a place. -/
def follow (files : Files) : Place → List String → Except Fault Place
  | here, [] => .ok here
  | here, part :: rest =>
    match files.entry? here with
    | some .directory =>
      if part = "" ∨ part = "." then follow files here rest
      else if part = ".." then follow files here.dropLast rest
      else if 255 < (Text.Utf8.encodeString part).length then .error .tooLong
      else if (files.entry? (here ++ [part])).isSome then follow files (here ++ [part]) rest
      else .error .notFound
    | some (.file _ _) => .error .notDirectory
    | none => .error .notFound

/-- Where a path starts. -/
def startOf (files : Files) (path : String) : Place := if isAbsolute path then [] else files.start

/-- What is wrong with a path wherever it leads. -/
def faultOf? (path : String) : Option Fault :=
  if path.toList.contains '\x00' then some .nulByte
  else if path.isEmpty then some .notFound
  else if 4095 < (Text.Utf8.encodeString path).length then some .tooLong
  else none

/-- The place a path leads to. -/
def find (files : Files) (path : String) : Except Fault Place :=
  match faultOf? path with
  | some f => .error f
  | none => files.follow (files.startOf path) (parts path)

/-- Whether a path leads to something. -/
def exists? (files : Files) (path : String) : Bool := (files.find path).toBool

/-- The content of the file a path leads to. -/
def read (files : Files) (path : String) : Except Fault Bytes :=
  match files.find path with
  | .error f => .error f
  | .ok place =>
    match files.entry? place with
    | some (.file content _) => .ok content
    | some .directory => .error .isDirectory
    | none => .error .notFound

/-- The directory that the last part of a path is looked for in. -/
def parentOf (files : Files) (path : String) (parts : List String) : Except Fault Place :=
  match files.follow (files.startOf path) parts.dropLast with
  | .error f => .error f
  | .ok parent =>
    match files.entry? parent with
    | some .directory => .ok parent
    | some (.file _ _) => .error .notDirectory
    | none => .error .notFound

/-- Where a file is written to: the place of a file that is there, or of a name in a directory. A
slash at the end makes the last name that of a directory, whatever is there. -/
def findForWriting (files : Files) (path : String) : Except Fault Place :=
  let parts := Files.parts path
  match faultOf? path with
  | some f => .error f
  | none =>
    if parts.getLast? = some "" then
      match files.parentOf path (parts.reverse.dropWhile (· = "")).reverse with
      | .error f => .error f
      | .ok _ => .error .isDirectory
    else match files.follow (files.startOf path) parts with
      | .ok place => if files.entry? place = some .directory then .error .isDirectory else .ok place
      | .error .notFound =>
        match files.parentOf path parts, parts.getLast? with
        | .ok parent, some name => .ok (parent ++ [name])
        | .ok _, none => .error .notFound
        | .error f, _ => .error f
      | .error f => .error f

/-- Adds to the end of a file, which is made if it is not there. -/
def append (files : Files) (path : String) (more : Bytes) : Except Fault Files :=
  match files.findForWriting path with
  | .error f => .error f
  | .ok place =>
    match files.entry? place with
    | some (.file content executable) =>
      let kept := if place = emptyPlace then [] else content ++ more
      .ok (files.add place (.file kept executable))
    | _ => .ok (files.add place (.file more false))

end Files

/-- The text of a file, given what reading it gave. -/
def textOfFile (content : Except Files.Fault Bytes) : Except Files.Fault (List Char) :=
  match content with
  | .error f => .error f
  | .ok bytes =>
    match Text.Utf8.decode? bytes with
    | some text => .ok text
    | none => .error .notText

end MetricsHarness

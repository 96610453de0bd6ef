import MetricsHarness.Files

/-!
# Programs

A file that may be executed is a program of the system or a script. The programs of the system
stand in two directories of the root; they are known by name, and their files are empty. A script
begins with a line that names the program to read it. A file that is neither cannot be started.
-/

namespace MetricsHarness

/-- A program of the system. -/
inductive Program where
  | shell
  | sleep
  /-- Ends at once with a status. -/
  | ends (status : Nat)
  | echo
  | printf
  /-- Writes files one after the other. -/
  | cat
  /-- Starts the program that its first argument names. -/
  | env
  deriving DecidableEq

namespace Program

/-- The programs by their names. -/
def names : List (String × Program) :=
  [("sh", .shell), ("dash", .shell), ("bash", .shell), ("sleep", .sleep), ("true", .ends 0),
    ("false", .ends 1), ("echo", .echo), ("printf", .printf), ("cat", .cat), ("env", .env)]

/-- The directories of the programs of the system. -/
def directories : List Place := [["usr", "bin"], ["bin"]]

/-- Adds the programs of the system to a tree of files. -/
def installed (files : Files) : Files :=
  directories.foldl (fun files directory =>
    names.foldl (fun files (name, _) => files.add (directory ++ [name]) (.file [] true)) files)
    files

/-- The program of the system at a place. -/
def at? (place : Place) : Option Program :=
  if directories.contains place.dropLast then place.getLast?.bind (names.lookup ·) else none

/-- Why a file cannot be started. -/
inductive Fault where
  | path (fault : Files.Fault)
  | format
  | loop
  | nulByte
  deriving DecidableEq

/-- The wording of a fault. -/
def Fault.message : Fault → String
  | .path f => f.message
  | .format => "Exec format error (os error 8)"
  | .loop => "Too many levels of symbolic links (os error 40)"
  | .nulByte => "nul byte found in provided data"

/-- The file that a path leads to, if it may be executed. -/
def executable (files : Files) (path : String) : Except Files.Fault (Place × Bytes) :=
  match files.find path with
  | .error f => .error f
  | .ok place =>
    match files.entry? place with
    | some (.file content true) => .ok (place, content)
    | some _ => .error .denied
    | none => .error .notFound

/-- A blank in the first line of a script. -/
def isBlank (b : UInt8) : Bool := b == 32 || b == 9

/-- The number of bytes that the first line of a script is looked for in. -/
def lineSpace : Nat := 256

/-- The words of the first line of a script behind its mark: the program to read it, and the rest
of the line as one argument. The argument may be cut short where the space for the line ends, the
program may not. -/
def interpreter? (content : Bytes) : Option (String × List String) :=
  match content with
  | 35 :: 33 :: rest =>
    let space := rest.take (lineSpace - 2)
    let line := space.takeWhile fun b => b != 10 && b != 0
    let isCut := line.length == lineSpace - 2
    let words := line.dropWhile isBlank
    let named := words.takeWhile (!isBlank ·)
    let argument := ((if isCut then words.dropLast else words).drop named.length).dropWhile isBlank
    let argument := (argument.reverse.dropWhile isBlank).reverse
    if named.isEmpty || (isCut && named.length == words.length) then none
    else some (String.ofList (Text.Utf8.decodeLossy named),
      if argument.isEmpty then [] else [String.ofList (Text.Utf8.decodeLossy argument)])
  | _ => none

/-- What `load` finds if fewer than `depth` scripts may be read one by the other. -/
def loadWithin (files : Files) : Nat → String → Except Fault (Program × List String)
  | depth, path =>
    match executable files path, depth with
    | .error f, _ => .error (.path f)
    | .ok _, 0 => .error .loop
    | .ok (place, content), depth + 1 =>
      match at? place, interpreter? content with
      | some program, _ => .ok (program, [])
      | none, none => .error .format
      | none, some (reader, args) =>
        match loadWithin files depth reader with
        | .error f => .error f
        | .ok (program, first) => .ok (program, first ++ args ++ [path])

/-- The program that starts when the file at a path is executed, with the arguments in front of
those that are given. A script may be read by another one, and so on for five scripts. -/
def load (files : Files) (path : String) : Except Fault (Program × List String) :=
  loadWithin files 6 path

/-- The places where a bare name is looked up, in order. -/
abbrev SearchPath := List String

/-- A path below a directory; an absolute one stays as it is. -/
def under (directory path : String) : String :=
  if Files.isAbsolute path then path
  else if directory.toList.getLast? = some '/' then directory ++ path
  else directory ++ "/" ++ path

/-- The first path below the search directories that leads to a file that may be executed. -/
def search? (files : Files) (directories : SearchPath) (name : String) : Option String :=
  (directories.map (under · name)).find? fun path => (executable files path).toBool

end Program

end MetricsHarness

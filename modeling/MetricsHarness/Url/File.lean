import MetricsHarness.Url.Host
import MetricsHarness.Url.Tail

/-!
# File URLs

After the scheme `file` stands a path, and between two slashes and the path a host. The host may be
empty or `localhost`, which is the same, and the path behind it then starts at its slash.

A drive right behind the root (`enterRoot?`) is written with a colon and displaces the host. Where
tabs or line ends part the drive from more text, the two become segments of their own, and the host
stays. Empty segments in front of a path are dropped at the end.
-/

namespace MetricsHarness.Url

/-- The segments of a file path so far, last first, and whether a drive displaces the host. -/
structure FilePath where
  before : List (List Char) := []
  drive : Bool := false

/-- A drive with its colon and the text that dropped characters part from it. -/
def partedDrive? (piece : List Char) : Option (List Char × List Char) :=
  match piece.dropWhile isDropped with
  | [] => none
  | letter :: more =>
    match more.dropWhile isDropped with
    | ':' :: after =>
      if isLetter letter && after.head?.any isDropped && !(solid after).isEmpty then
        some ([letter, ':'], solid after)
      else none
    | _ => none

/-- The path after a piece right behind the root, if that begins with a drive. -/
def enterRoot? (piece : List Char) : Option FilePath :=
  if isDrive (solid piece) then some ⟨[(solid piece).take 1 ++ [':']], true⟩
  else (partedDrive? piece).map fun (drive, more) =>
    ⟨[Percent.encode Percent.inPath more, drive], false⟩

/-- The path after one more piece, which `step` adds if there is no drive in it. -/
def FilePath.add (step : List (List Char) → List Char → List (List Char)) (path : FilePath)
    (piece : List Char) : FilePath :=
  match if path.before.isEmpty then enterRoot? piece else none with
  | some entered => entered
  | none => { path with before := step path.before (solid piece) }

/-- The path of its pieces. -/
def FilePath.ofPieces (path : FilePath) : List (List Char) → FilePath
  | [] => path
  | [p] => path.add finish p
  | p :: q :: rest => (path.add enter p).ofPieces (q :: rest)

/-- Segments without the empty ones in front; one segment stays. -/
def dropEmpty : List (List Char) → List (List Char)
  | [] :: s :: rest => dropEmpty (s :: rest)
  | list => list

/-- The URL of a file path with slashes of one direction. -/
def fileUrl (host : Option Host) (path : List Char) (tail : Tail) : Url :=
  let read := FilePath.ofPieces {} (Text.pieces '/' path)
  let host := if read.drive then none else host
  assemble true "file".toList (some ⟨[], [], host, none⟩)
    (.segments (dropEmpty read.before.reverse)) tail

/-- Reads the host of a file; `localhost` is none. -/
def readFileHost [Idna] (cs : List Char) : Except Fault (Option Host) :=
  if cs.isEmpty then .ok none
  else match readWebHost cs with
    | .error f => .error f
    | .ok host => .ok (if host = .name "localhost".toList then none else some host)

/-- Reads a path with a host in front of it. A drive in its place belongs to the path. -/
def readHostedFile [Idna] (cs : List Char) (tail : Tail) : Except Fault Url :=
  let hostText := solid (cs.takeWhile (· != '/'))
  let path := cs.dropWhile (· != '/')
  if isDrive hostText then .ok (fileUrl none cs tail)
  else match readFileHost hostText with
    | .error f => .error f
    | .ok none => .ok (fileUrl none path tail)
    | .ok (some host) => .ok (fileUrl (some host) (path.drop 1) tail)

/-- Reads a file URL after its scheme, from a text that still has its tabs and line ends. -/
def readFile [Idna] (cs : List Char) : Except Fault Url :=
  let tail := cutTail (solid cs)
  let path := forwardSlashes (cs.takeWhile fun c => c != '?' && c != '#')
  match path.dropWhile isDropped with
  | '/' :: rest =>
    match rest.dropWhile isDropped with
    | '/' :: more => readHostedFile more tail
    | _ => .ok (fileUrl none rest tail)
  | _ => .ok (fileUrl none path tail)

end MetricsHarness.Url

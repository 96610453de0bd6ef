import MetricsHarness.Text.Pieces
import MetricsHarness.Url.Percent

/-!
# Segments of a path

A path is cut at its slashes into segments. The segment `.` stands for nothing and `..` for the
removal of the one before it, in any spelling with escapes; at the end of a path both leave an
empty segment, so that the path ends in a slash. A segment that names a drive is not removed.
-/

namespace MetricsHarness.Url

/-- An ASCII letter. -/
def isLetter (c : Char) : Bool := ('a' ≤ c && c ≤ 'z') || ('A' ≤ c && c ≤ 'Z')

/-- A letter with a colon, or a bar in its place: the name of a drive. -/
def isDrive : List Char → Bool
  | [c, mark] => isLetter c && (mark == ':' || mark == '|')
  | _ => false

/-- A segment that `..` does not remove: the name of a drive, alone or before a backslash. -/
def isLasting (segment : List Char) : Bool :=
  isDrive (segment.take 2) && (segment.length == 2 || (segment.drop 2).head? == some '\\')

/-- Each escaped dot as a dot. -/
def plainDots : List Char → List Char
  | '%' :: '2' :: e :: rest =>
    if e == 'e' || e == 'E' then '.' :: plainDots rest else '%' :: '2' :: e :: plainDots rest
  | c :: rest => c :: plainDots rest
  | [] => []

/-- The segment that stands for nothing. -/
def isHere (segment : List Char) : Bool := plainDots segment == ['.']

/-- The segment that removes the one before it. -/
def isUp (segment : List Char) : Bool := plainDots segment == ['.', '.']

/-- Segments, last first, without the last one, unless it lasts. -/
def withoutLast : List (List Char) → List (List Char)
  | [] => []
  | s :: before => if isLasting s then s :: before else before

/-- The segments, last first, after a piece that a slash follows. -/
def enter (before : List (List Char)) (piece : List Char) : List (List Char) :=
  if isUp piece then withoutLast before
  else if isHere piece then before
  else Percent.encode Percent.inPath piece :: before

/-- The segments, last first, after the last piece. -/
def finish (before : List (List Char)) (piece : List Char) : List (List Char) :=
  if isUp piece then [] :: withoutLast before
  else if isHere piece then [] :: before
  else Percent.encode Percent.inPath piece :: before

/-- The segments of the pieces of a path, after the segments `before`, last first. -/
def resolve (before : List (List Char)) : List (List Char) → List (List Char)
  | [] => before.reverse
  | [p] => (finish before p).reverse
  | p :: q :: rest => resolve (enter before p) (q :: rest)

/-- The segments of a path whose first slash is already gone. -/
def segmentsOf (cs : List Char) : List (List Char) := resolve [] (Text.pieces '/' cs)

end MetricsHarness.Url

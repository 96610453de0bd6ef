import MetricsHarness.Url.Basic
import MetricsHarness.Url.Path

/-!
# The tail of a URL

What follows the authority of a URL: a path up to a question mark or a number sign, a query after
the question mark and a fragment after the number sign. Control characters and blanks around the
text of a URL are dropped, tabs and line ends everywhere.
-/

namespace MetricsHarness.Url

/-- Characters that a URL drops wherever they stand. -/
def isDropped (c : Char) : Bool := c == '\t' || c == '\n' || c == '\r'

/-- A text without the characters that are dropped everywhere. -/
def solid (cs : List Char) : List Char := cs.filter (!isDropped ·)

/-- A text without control characters and blanks around it. -/
def trimmed (cs : List Char) : List Char :=
  ((cs.dropWhile (· ≤ ' ')).reverse.dropWhile (· ≤ ' ')).reverse

/-- A slash in place of each backslash. -/
def forwardSlashes (cs : List Char) : List Char := cs.map fun c => if c = '\\' then '/' else c

/-- The parts of a URL after its authority, not yet read. -/
structure Tail where
  path : List Char
  query : Option (List Char)
  fragment : Option (List Char)

/-- Cuts off query and fragment. -/
def cutTail (cs : List Char) : Tail :=
  let before := cs.takeWhile (· != '#')
  let fragment := match cs.dropWhile (· != '#') with
    | [] => none
    | _ :: f => some f
  let query := match before.dropWhile (· != '?') with
    | [] => none
    | _ :: q => some q
  ⟨before.takeWhile (· != '?'), query, fragment⟩

/-- A URL from its parts, with query and fragment escaped. -/
def assemble (special : Bool) (scheme : List Char) (authority : Option Authority) (path : Path)
    (tail : Tail) : Url :=
  ⟨scheme, authority, path, tail.query.map (Percent.encode (Percent.inQuery special)),
    tail.fragment.map (Percent.encode Percent.inFragment)⟩

end MetricsHarness.Url

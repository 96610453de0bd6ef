import MetricsHarness.Url.Reading

/-!
# Following a reference

A reference that a URL of the web gives is read against that URL, its base. A reference with a
scheme of its own stands alone, unless it repeats the scheme of the base without an authority. The
parts that a reference leaves out come from the base: the scheme, the authority, and for a path
without a root the segments before the last one.
-/

namespace MetricsHarness.Url

/-- The segments that a path without a root continues: all but the last one. -/
def Path.above : Path → List (List Char)
  | .whole _ => []
  | .segments list => list.dropLast

/-- A reference that begins behind the authority, against a base of the web. -/
def joinPath (base : Url) (cs : List Char) : Url :=
  let tail := cutTail cs
  let path := forwardSlashes tail.path
  let authority := base.authority
  match path with
  | [] =>
    match tail.query with
    | some _ => assemble true base.scheme authority base.path tail
    | none =>
      { base with fragment := tail.fragment.map (Percent.encode Percent.inFragment) }
  | '/' :: rest =>
    assemble true base.scheme authority (.segments (segmentsOf rest)) tail
  | path =>
    let segments := resolve base.path.above.reverse (Text.pieces '/' path)
    assemble true base.scheme authority (.segments segments) tail

/-- A reference without a scheme against a base of the web. -/
def joinWeb [Idna] (base : Url) (default : UInt16) (cs : List Char) : Except Fault Url :=
  match forwardSlashes (cs.take 2) with
  | ['/', '/'] => readWeb base.scheme default cs
  | _ => .ok (joinPath base cs)

/-- Reads a reference that the URL `base` gives. Only a URL of the web lends its parts. -/
def join [Idna] (base : Url) (text : List Char) : Except Fault Url :=
  match webPort? base.scheme with
  | none => read text
  | some default =>
    match readScheme? (solid (trimmed text)) with
    | none => joinWeb base default (solid (trimmed text))
    | some (scheme, rest) =>
      if scheme = base.scheme ∧ forwardSlashes (rest.take 2) ≠ ['/', '/'] then
        joinWeb base default rest
      else read text

end MetricsHarness.Url

import MetricsHarness.Url.File

/-!
# Reading a URL

A URL is read from an absolute text: a scheme, then by the kind of scheme

- in the schemes of the web any number of slashes of either direction, the authority and a path
  (`readWeb`);
- in `file` a path, after two slashes with a host before it (`readFile`);
- in every other scheme an authority and a path after two slashes, a path after one, and one text
  without structure after none (`readOther`).

Control characters and blanks around the text are dropped, tabs and line ends everywhere. Outside
of queries and fragments a backslash counts as a slash in the schemes of the web and in `file`.
-/

namespace MetricsHarness.Url

/-- The default port of a scheme of the web; none for other schemes. -/
def webPort? (scheme : List Char) : Option UInt16 :=
  if scheme = "http".toList ∨ scheme = "ws".toList then some 80
  else if scheme = "https".toList ∨ scheme = "wss".toList then some 443
  else if scheme = "ftp".toList then some 21
  else none

/-- A character of a scheme after the first. -/
def isSchemeChar (c : Char) : Bool :=
  isLetter c || Text.isDigit c || c == '+' || c == '-' || c == '.'

/-- The scheme in lowercase and what follows its colon. -/
def readScheme? (cs : List Char) : Option (List Char × List Char) :=
  match cs.head?, cs.dropWhile isSchemeChar with
  | some c, ':' :: rest =>
    if isLetter c then some ((cs.takeWhile isSchemeChar).map Char.toLower, rest) else none
  | _, _ => none

/-- A text around its last `@`. -/
def aroundLastAt? (cs : List Char) : Option (List Char × List Char) :=
  if cs.contains '@' then
    let back := cs.reverse
    some (((back.dropWhile (· != '@')).drop 1).reverse, (back.takeWhile (· != '@')).reverse)
  else none

/-- User and password of the text before the last `@`. -/
def readUser (cs : List Char) : List Char × List Char :=
  (Percent.encode Percent.inUser (cs.takeWhile (· != ':')),
    Percent.encode Percent.inUser ((cs.dropWhile (· != ':')).drop 1))

/-- The host at the front of a text and what follows it; a colon in brackets is part of it. -/
def cutHost : Bool → List Char → List Char × List Char
  | _, [] => ([], [])
  | inside, c :: rest =>
    if c == ':' && !inside then ([], c :: rest)
    else
      let (host, more) := cutHost (c == '[' || (inside && c != ']')) rest
      (c :: host, more)

/-- Reads a port after the host, and answers what follows it, which begins with a backslash if it
is not empty. A port without digits is none. -/
def readPort (default : Option UInt16) (cs : List Char) :
    Except Fault (Option UInt16 × List Char) :=
  match cs with
  | [] => .ok (none, [])
  | _ :: rest =>
    let digits := rest.takeWhile Text.isDigit
    let after := rest.dropWhile Text.isDigit
    if !after.isEmpty && after.head? != some '\\' then .error .port
    else match Text.value? 10 digits with
      | none => .ok (none, after)
      | some n =>
        if 65535 < n then .error .port
        else
          let port := UInt16.ofNat n
          .ok (if some port = default then none else some port, after)

/-- The parts of the text of an authority: user, password, and the text of host and port. A lone
`@` must be followed by a host. -/
def cutUser (authority : List Char) (more : Bool) :
    Except Fault (List Char × List Char × List Char) :=
  match aroundLastAt? authority with
  | none => .ok ([], [], authority)
  | some (before, after) =>
    if before.isEmpty && after.isEmpty && more then .error .emptyHost
    else
      let (user, password) := readUser before
      .ok (user, password, after)

/-- The end of an authority. -/
def isAuthorityEnd (web : Bool) (c : Char) : Bool :=
  c == '/' || c == '?' || c == '#' || (web && c == '\\')

/-- A path without its first slash. -/
def withoutRoot (cs : List Char) : List Char :=
  match cs with
  | '/' :: rest => rest
  | _ => cs

/-- Reads a URL of the web after its scheme. -/
def readWeb [Idna] (scheme : List Char) (default : UInt16) (cs : List Char) : Except Fault Url := do
  let cs := cs.dropWhile fun c => c == '/' || c == '\\'
  let rest := cs.dropWhile (!isAuthorityEnd true ·)
  let (user, password, hostAndPort) ←
    cutUser (cs.takeWhile (!isAuthorityEnd true ·)) (!rest.isEmpty)
  let (hostText, portText) := cutHost false hostAndPort
  if hostText.isEmpty then .error .emptyHost
  let host ← readWebHost hostText
  let (port, _) ← readPort (some default) portText
  let tail := cutTail rest
  let path := segmentsOf (withoutRoot (forwardSlashes tail.path))
  return assemble true scheme (some ⟨user, password, some host, port⟩) (.segments path) tail

/-- Reads a URL of another scheme after its two slashes. -/
def readOtherAuthority (scheme : List Char) (cs : List Char) : Except Fault Url := do
  let rest := cs.dropWhile (!isAuthorityEnd false ·)
  let (user, password, hostAndPort) ←
    cutUser (cs.takeWhile (!isAuthorityEnd false ·)) (!rest.isEmpty)
  let (hostText, portText) := cutHost false hostAndPort
  let host ← readOtherHost hostText
  if host.isNone && !portText.isEmpty then .error .emptyHost
  let (port, after) ← readPort none portText
  if host.isNone && !(user.isEmpty && password.isEmpty) then .error .emptyHost
  let tail := cutTail (after ++ rest)
  let path := if tail.path.isEmpty then [] else segmentsOf (withoutRoot tail.path)
  return assemble false scheme (some ⟨user, password, host, port⟩) (.segments path) tail

/-- Reads a URL of another scheme. -/
def readOther (scheme : List Char) (cs : List Char) : Except Fault Url :=
  match cs with
  | '/' :: '/' :: rest => readOtherAuthority scheme rest
  | '/' :: rest =>
    let tail := cutTail rest
    .ok (assemble false scheme none (.segments (segmentsOf tail.path)) tail)
  | cs =>
    let tail := cutTail cs
    .ok (assemble false scheme none (.whole (Percent.encode Percent.isControl tail.path)) tail)

/-- Reads a URL. -/
def read [Idna] (text : List Char) : Except Fault Url :=
  match readScheme? (solid (trimmed text)) with
  | none => .error .relative
  | some (scheme, rest) =>
    if scheme = "file".toList then readFile (((trimmed text).dropWhile (· != ':')).drop 1)
    else match webPort? scheme with
      | some default => readWeb scheme default rest
      | none => readOther scheme rest

end MetricsHarness.Url

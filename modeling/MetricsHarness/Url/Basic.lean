import MetricsHarness.Text.Hex
import MetricsHarness.Text.Numeral
import MetricsHarness.Text.Pieces

/-!
# URLs

A URL has a scheme, for most schemes an authority (user, host and port), a path, and optionally a
query and a fragment. All texts are kept as they are written, escapes included. The path of a
scheme such as `mailto` has no structure and stays in one piece (`Path.whole`).

`Url.chars` writes a URL. A path that begins with two slashes, without an authority before it,
would be read as one; a `/.` in front of it prevents that.
-/

namespace MetricsHarness

namespace Url

/-- A host: a name, or an address of four bytes or of eight groups of 16 bits. -/
inductive Host where
  | name (text : List Char)
  | four (address : UInt32)
  | six (groups : List UInt16)
  deriving DecidableEq

/-- The parts before the path. A name or a password that is empty is not written, and neither is a
port that is the default of the scheme. -/
structure Authority where
  user : List Char
  password : List Char
  host : Option Host
  port : Option UInt16
  deriving DecidableEq

/-- A path: one text without structure, or segments after slashes. -/
inductive Path where
  | whole (text : List Char)
  | segments (list : List (List Char))
  deriving DecidableEq

end Url

/-- A URL in its parts. -/
structure Url where
  scheme : List Char
  authority : Option Url.Authority
  path : Url.Path
  query : Option (List Char)
  fragment : Option (List Char)
  deriving DecidableEq

namespace Url

/-- An address of four bytes in decimal. -/
def fourChars (address : UInt32) : List Char :=
  Text.joined ['.'] ([16777216, 65536, 256, 1].map fun unit =>
    Text.numeralChars (address.toNat / unit % 256))

/-- A group in hexadecimal without leading zeros. -/
def groupChars (group : UInt16) : List Char := Nat.toDigits 16 group.toNat

/-- The number of zero groups in front. -/
def leadingZeros (groups : List UInt16) : Nat := (groups.takeWhile (· == 0)).length

/-- Where the longest run of zero groups starts and its length; of equal runs the first. -/
def longestZeros (groups : List UInt16) : Nat × Nat :=
  (List.range groups.length).foldl (fun (start, count) i =>
    let here := leadingZeros (groups.drop i)
    if count < here then (i, here) else (start, count)) (0, 0)

/-- An address of eight groups. The longest run of at least two zero groups is left out. -/
def sixChars (groups : List UInt16) : List Char :=
  let (start, count) := longestZeros groups
  let line (gs : List UInt16) := Text.joined [':'] (gs.map groupChars)
  if count < 2 then line groups
  else line (groups.take start) ++ [':', ':'] ++ line (groups.drop (start + count))

/-- A host as it is written. -/
def Host.chars : Host → List Char
  | .name text => text
  | .four address => fourChars address
  | .six groups => '[' :: (sixChars groups ++ [']'])

/-- The user part as it is written. -/
def Authority.userChars (a : Authority) : List Char :=
  if a.user.isEmpty && a.password.isEmpty then []
  else a.user ++ (if a.password.isEmpty then [] else ':' :: a.password) ++ ['@']

/-- The port as it is written. -/
def Authority.portChars (a : Authority) : List Char :=
  match a.port with
  | none => []
  | some p => ':' :: Text.numeralChars p.toNat

/-- The host of an authority as it is written. -/
def Authority.hostChars (a : Authority) : List Char :=
  match a.host with
  | none => []
  | some h => h.chars

/-- An authority as it is written. -/
def Authority.chars (a : Authority) : List Char := a.userChars ++ a.hostChars ++ a.portChars

/-- A path as it is written. -/
def Path.chars : Path → List Char
  | .whole text => text
  | .segments list => list.flatMap ('/' :: ·)

/-- What stands between the scheme and the path. -/
def leadChars (u : Url) : List Char :=
  match u.authority with
  | some a => '/' :: '/' :: a.chars
  | none => if Text.startsWith ['/', '/'] u.path.chars then ['/', '.'] else []

/-- The query with its mark. -/
def queryChars (u : Url) : List Char :=
  match u.query with
  | none => []
  | some q => '?' :: q

/-- The fragment with its mark. -/
def fragmentChars (u : Url) : List Char :=
  match u.fragment with
  | none => []
  | some f => '#' :: f

/-- A URL as it is written. -/
def chars (u : Url) : List Char :=
  u.scheme ++ ':' :: (u.leadChars ++ u.path.chars ++ u.queryChars ++ u.fragmentChars)

/-- The text of a URL. -/
def text (u : Url) : String := String.ofList u.chars

/-- The host of a URL. -/
def host? (u : Url) : Option Host := u.authority.bind (·.host)

/-- The port of a URL, if it is not the default of the scheme. -/
def port? (u : Url) : Option UInt16 := u.authority.bind (·.port)

end Url

end MetricsHarness

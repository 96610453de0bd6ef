import MetricsHarness.Url.Basic
import MetricsHarness.Url.Domain
import MetricsHarness.Url.Percent

/-!
# Reading hosts

In the schemes of the web a host is decoded, put into ASCII and then read: a name whose last label
is a number is an address of four bytes in one to four numbers, each decimal, octal or hexadecimal;
any other name must hold no character with a meaning in URLs. In other schemes a name keeps its
letters and its escapes. In both, brackets hold an address of eight groups.
-/

namespace MetricsHarness.Url

/-- What can be wrong with a URL. -/
inductive Fault where
  | emptyHost
  | domainName
  | port
  | fourAddress
  | sixAddress
  | domainCharacter
  | relative
  deriving DecidableEq, Repr

/-- The wording of a fault. -/
def Fault.message : Fault → String
  | .emptyHost => "empty host"
  | .domainName => "invalid international domain name"
  | .port => "invalid port number"
  | .fourAddress => "invalid IPv4 address"
  | .sixAddress => "invalid IPv6 address"
  | .domainCharacter => "invalid domain character"
  | .relative => "relative URL without a base"

/-- Characters no host may hold. -/
def isHostBreaker (c : Char) : Bool :=
  "\x00\t\n\r #/:<>?@[\\]^|".toList.contains c

/-- Characters no host of the web may hold. -/
def isNameBreaker (c : Char) : Bool := isHostBreaker c || c.toNat < 0x20 || c == '%' || c == '\x7f'

/-- A number of an address: hexadecimal after `0x`, octal after `0`, decimal otherwise. Nothing
after `0x` is zero. -/
def addressNumber? (cs : List Char) : Option Nat :=
  match cs with
  | '0' :: 'x' :: digits => if digits.isEmpty then some 0 else Text.value? 16 digits
  | '0' :: 'X' :: digits => if digits.isEmpty then some 0 else Text.value? 16 digits
  | '0' :: d :: digits => Text.value? 8 (d :: digits)
  | digits => Text.value? 10 digits

/-- The labels of a name; an empty one at the end does not count. -/
def labels (name : List Char) : List (List Char) :=
  let ls := Text.pieces '.' name
  match ls.reverse with
  | [] :: before => before.reverse
  | _ => ls

/-- Whether the last label of a name is a number, which makes the name an address. -/
def endsInNumber (name : List Char) : Bool :=
  match (labels name).getLast? with
  | none => false
  | some l => (!l.isEmpty && l.all Text.isDigit) || (addressNumber? l).isSome

/-- The address of its numbers, the last of which fills all the bytes that are left. -/
def fourOfNumbers : Nat → List Nat → Option Nat
  | _, [] => none
  | unit, [n] => if n < unit then some n else none
  | unit, n :: rest =>
    if n < 256 then (fourOfNumbers (unit / 256) rest).map (n * (unit / 256) + ·) else none

/-- Reads an address of four bytes. -/
def readFour (name : List Char) : Except Fault UInt32 :=
  let ls := labels name
  if 4 < ls.length then .error .fourAddress
  else match ls.mapM addressNumber? with
    | none => .error .fourAddress
    | some numbers =>
      match fourOfNumbers 4294967296 numbers with
      | none => .error .fourAddress
      | some n => .ok (UInt32.ofNat n)

/-- Reads a group of one to four hexadecimal digits. -/
def readGroup? (cs : List Char) : Option (List UInt16) :=
  if cs.length ≤ 4 then (Text.value? 16 cs).map fun n => [UInt16.ofNat n] else none

/-- Reads a byte in decimal without leading zeros. -/
def readByte? (cs : List Char) : Option Nat :=
  if cs.length ≤ 3 && (cs.length ≤ 1 || cs.head? != some '0') then
    (Text.value? 10 cs).bind fun n => if n < 256 then some n else none
  else none

/-- Reads four bytes in decimal as two groups. -/
def readFourGroups? (cs : List Char) : Option (List UInt16) :=
  match (Text.pieces '.' cs).mapM readByte? with
  | some [a, b, c, d] => some [UInt16.ofNat (a * 256 + b), UInt16.ofNat (c * 256 + d)]
  | _ => none

/-- Reads groups between colons. Where they end the address, the last may be four bytes. -/
def readGroups? (ending : Bool) : List (List Char) → Option (List UInt16)
  | [] => some []
  | [g] => if ending && g.contains '.' then readFourGroups? g else readGroup? g
  | g :: rest =>
    match readGroup? g, readGroups? ending rest with
    | some group, some more => some (group ++ more)
    | _, _ => none

/-- The groups of a text; none if it is empty. -/
def groupPieces (cs : List Char) : List (List Char) :=
  if cs.isEmpty then [] else Text.pieces ':' cs

/-- A text around its first double colon. -/
def aroundGap? : List Char → Option (List Char × List Char)
  | [] => none
  | ':' :: ':' :: rest => some ([], rest)
  | c :: rest => (aroundGap? rest).map fun (before, after) => (c :: before, after)

/-- Reads an address of eight groups. A double colon stands for the zero groups that are missing,
of which there must be one at least. -/
def readSix (cs : List Char) : Except Fault (List UInt16) :=
  let result := match aroundGap? cs with
    | none => (readGroups? true (Text.pieces ':' cs)).bind fun groups =>
        if groups.length = 8 then some groups else none
    | some (before, after) =>
      match readGroups? false (groupPieces before), readGroups? true (groupPieces after) with
      | some front, some back =>
        if front.length + back.length ≤ 7 then
          some (front ++ List.replicate (8 - front.length - back.length) 0 ++ back)
        else none
      | _, _ => none
  match result with
  | some groups => .ok groups
  | none => .error .sixAddress

/-- Reads what stands in brackets, if the text starts with one. -/
def readBracketed? (cs : List Char) : Option (Except Fault Host) :=
  match cs with
  | '[' :: rest =>
    if rest.getLast? = some ']' then some ((readSix rest.dropLast).map Host.six)
    else some (.error .sixAddress)
  | _ => none

/-- Reads a domain that is decoded. -/
def readDomain [Idna] (domain : List Char) : Except Fault Host :=
  match domainName? domain with
  | none => .error .domainName
  | some name =>
    if name.any isNameBreaker then .error .domainName
    else if name.isEmpty then .error .emptyHost
    else if endsInNumber name then (readFour name).map Host.four
    else .ok (.name name)

/-- Reads a host of the web. -/
def readWebHost [Idna] (cs : List Char) : Except Fault Host :=
  match readBracketed? cs with
  | some result => result
  | none =>
    match Text.Utf8.decode? (Percent.decode (Text.Utf8.encode cs)) with
    | none => .error .domainName
    | some domain => if domain.any isNameBreaker then .error .domainName else readDomain domain

/-- Reads a host of another scheme, which may be empty. -/
def readOtherHost (cs : List Char) : Except Fault (Option Host) :=
  match readBracketed? cs with
  | some result => result.map some
  | none =>
    if cs.any isHostBreaker then .error .domainCharacter
    else if cs.isEmpty then .ok none
    else .ok (some (.name (Percent.encode Percent.isControl cs)))

end MetricsHarness.Url

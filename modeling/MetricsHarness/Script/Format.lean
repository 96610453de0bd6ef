import MetricsHarness.Text.Numeral
import MetricsHarness.Text.Utf8

/-!
# Texts that commands write

`echo` writes its arguments, with escapes read, between blanks. `printf` writes a format, in which
escapes are read and conversions stand for arguments; the format is used again as long as arguments
are left. An escape may name a byte by its octal digits, so what is written are bytes.
-/

namespace MetricsHarness.Script

/-- The byte that a letter behind a backslash stands for. -/
def letterEscape? (c : Char) : Option UInt8 :=
  match c with
  | 'a' => some 7
  | 'b' => some 8
  | 'f' => some 12
  | 'n' => some 10
  | 'r' => some 13
  | 't' => some 9
  | 'v' => some 11
  | '\\' => some 92
  | _ => none

/-- An octal digit. -/
def isOctal (c : Char) : Bool := '0' ≤ c && c ≤ '7'

/-- The byte of octal digits. -/
def octalByte (digits : List Char) : UInt8 :=
  UInt8.ofNat ((Text.value? 8 digits).getD 0)

/-- What a text writes, and whether writing ends with it. -/
structure Written where
  bytes : Bytes
  ends : Bool

/-- Bytes in front of what is written. -/
def Written.after (bytes : Bytes) (w : Written) : Written := { w with bytes := bytes ++ w.bytes }

/-- A text with its escapes read, in which a byte is named by a zero and up to three octal digits.
The escape `\c` ends all writing. -/
def unescaped : Nat → List Char → Written
  | 0, _ => ⟨[], false⟩
  | _, [] => ⟨[], false⟩
  | _ + 1, '\\' :: 'c' :: _ => ⟨[], true⟩
  | fuel + 1, '\\' :: '0' :: rest =>
    let digits := (rest.take 3).takeWhile isOctal
    let byte := if digits.isEmpty then 0 else octalByte digits
    (unescaped fuel (rest.drop digits.length)).after [byte]
  | fuel + 1, '\\' :: c :: rest =>
    match letterEscape? c with
    | some b => (unescaped fuel rest).after [b]
    | none => (unescaped fuel (c :: rest)).after [92]
  | fuel + 1, c :: rest => (unescaped fuel rest).after (Text.Utf8.encodeChar c)

/-- Arguments with blanks between them, as `echo` writes them. -/
def echoWords : List (List Char) → Written
  | [] => ⟨[], false⟩
  | [a] => unescaped (a.length + 1) a
  | a :: rest =>
    let w := unescaped (a.length + 1) a
    if w.ends then w else (echoWords rest).after (w.bytes ++ [32])

/-- What `echo` writes; `-n` in front leaves out the end of the line. -/
def echo (args : List (List Char)) : Bytes :=
  let (args, ending) : List (List Char) × Bytes := match args with
    | ['-', 'n'] :: rest => (rest, [])
    | _ => (args, [10])
  let w := echoWords args
  if w.ends then w.bytes else w.bytes ++ ending

/-- How an argument is set. -/
structure Conversion where
  left : Bool
  zeros : Bool
  width : Nat
  precision : Option Nat
  letter : Char

/-- Reads a conversion after its percent sign. -/
def readConversion (cs : List Char) : Option (Conversion × List Char) :=
  let flags := cs.takeWhile fun c => "-0+ #".toList.contains c
  let cs := cs.dropWhile fun c => "-0+ #".toList.contains c
  let width := (Text.value? 10 (cs.takeWhile Text.isDigit)).getD 0
  let cs := cs.dropWhile Text.isDigit
  let (precision, cs) := match cs with
    | '.' :: rest =>
      (some ((Text.value? 10 (rest.takeWhile Text.isDigit)).getD 0), rest.dropWhile Text.isDigit)
    | _ => (none, cs)
  match cs with
  | [] => none
  | letter :: rest =>
    some (⟨flags.contains '-', flags.contains '0', width, precision, letter⟩, rest)

/-- The number that an argument names; zero if it names none. -/
def numberOf (arg : List Char) : Int :=
  match Text.readInt64 arg with
  | .ok i => i
  | .error _ => 0

/-- Bytes filled up to a width. -/
def Conversion.fill (c : Conversion) (bytes : Bytes) : Bytes :=
  let missing := c.width - bytes.length
  if c.left then bytes ++ List.replicate missing 32
  else if c.zeros && c.letter != 's' then List.replicate missing 48 ++ bytes
  else List.replicate missing 32 ++ bytes

/-- What a conversion writes for an argument. -/
def Conversion.write (c : Conversion) (arg : List Char) : Written :=
  let cut (bs : Bytes) := match c.precision with
    | some n => bs.take n
    | none => bs
  let unsigned (radix : Nat) : Bytes :=
    Text.Utf8.encode (Nat.toDigits radix (numberOf arg % 18446744073709551616).toNat)
  match c.letter with
  | 's' => ⟨c.fill (cut (Text.Utf8.encode arg)), false⟩
  | 'b' =>
    let w := unescaped (arg.length + 1) arg
    ⟨c.fill (cut w.bytes), w.ends⟩
  | 'c' => ⟨c.fill ((Text.Utf8.encode arg).take 1), false⟩
  | 'd' => ⟨c.fill (Text.Utf8.encodeString (Text.signedNumeral (numberOf arg))), false⟩
  | 'i' => ⟨c.fill (Text.Utf8.encodeString (Text.signedNumeral (numberOf arg))), false⟩
  | 'u' => ⟨c.fill (unsigned 10), false⟩
  | 'o' => ⟨c.fill (unsigned 8), false⟩
  | 'x' => ⟨c.fill (unsigned 16), false⟩
  | _ => ⟨[], true⟩

/-- Writes a format once; answers the arguments that are left. -/
def writeFormat : Nat → List Char → List (List Char) → Written × List (List Char)
  | 0, _, args => (⟨[], false⟩, args)
  | _, [], args => (⟨[], false⟩, args)
  | fuel + 1, '%' :: '%' :: rest, args =>
    let (w, left) := writeFormat fuel rest args
    (w.after [37], left)
  | fuel + 1, '%' :: rest, args =>
    match readConversion rest with
    | none => (⟨[], true⟩, args)
    | some (conversion, rest) =>
      let first := conversion.write (args.head?.getD [])
      if first.ends then (first, args.tail)
      else
        let (w, left) := writeFormat fuel rest args.tail
        (w.after first.bytes, left)
  | _ + 1, '\\' :: 'c' :: _, args => (⟨[], true⟩, args)
  | fuel + 1, '\\' :: c :: rest, args =>
    let digits := ((c :: rest).take 3).takeWhile isOctal
    if !digits.isEmpty then
      let (w, left) := writeFormat fuel ((c :: rest).drop digits.length) args
      (w.after [octalByte digits], left)
    else match letterEscape? c with
      | some b =>
        let (w, left) := writeFormat fuel rest args
        (w.after [b], left)
      | none =>
        let (w, left) := writeFormat fuel (c :: rest) args
        (w.after [92], left)
  | fuel + 1, c :: rest, args =>
    let (w, left) := writeFormat fuel rest args
    (w.after (Text.Utf8.encodeChar c), left)

/-- Writes a format as often as there are arguments for it, at most `fuel` times. -/
def writeFormats : Nat → List Char → List (List Char) → Bytes
  | 0, _, _ => []
  | fuel + 1, format, args =>
    let (w, left) := writeFormat (format.length + 1) format args
    if w.ends || left.isEmpty || left.length == args.length then w.bytes
    else w.bytes ++ writeFormats fuel format left

/-- What `printf` writes. -/
def printf (format : List Char) (args : List (List Char)) : Bytes :=
  writeFormats (args.length + 1) format args

end MetricsHarness.Script

import MetricsHarness.Json.Number
import MetricsHarness.Json.Texts

/-!
# Moving past a value

The value of a key nobody asked for is checked for its form and otherwise ignored. Lists and
objects may nest without a limit, so the reader keeps a stack of the brackets that are open
instead of recursing into them. Numbers are checked for their grammar, not for their size.
-/

namespace MetricsHarness.Json

/-- An open bracket. -/
inductive Bracket where
  | list
  | object
  deriving DecidableEq

/-- Moves past a sign, if one is ahead. -/
def passSign : Reader Unit := do
  match ← Reader.peek with
  | some 0x2B => Reader.skip
  | some 0x2D => Reader.skip
  | _ => return ()

/-- Moves past an exponent, whose `e` is ahead. -/
def passExponent : Reader Unit := do
  Reader.skip
  passSign
  match ← Reader.peek with
  | none => Reader.fail .invalidNumber
  | some b =>
    if isDigitByte b then do
      let _ ← takeDigits
      return ()
    else do
      Reader.skip
      Reader.fail .invalidNumber

/-- Moves past a fraction, whose point is ahead. -/
def passFraction : Reader Unit := do
  Reader.skip
  let digits ← takeDigits
  if digits.isEmpty then Reader.failAhead .invalidNumber
  match ← Reader.peek with
  | some 0x65 => passExponent
  | some 0x45 => passExponent
  | _ => return ()

/-- Moves past the digits before a point: one zero alone, or any that begin with no zero. -/
def passWhole : Reader Unit := do
  match ← Reader.peek with
  | none => Reader.fail .invalidNumber
  | some b =>
    if b = 0x30 then do
      Reader.skip
      match ← Reader.peek with
      | some c => if isDigitByte c then Reader.failAhead .invalidNumber else return ()
      | none => return ()
    else if isDigitByte b then do
      let _ ← takeDigits
      return ()
    else do
      Reader.skip
      Reader.fail .invalidNumber

/-- Moves past the digits of a number and what follows them. -/
def passNumberDigits : Reader Unit := do
  passWhole
  match ← Reader.peek with
  | some 0x2E => passFraction
  | some 0x65 => passExponent
  | some 0x45 => passExponent
  | _ => return ()

/-- Moves past a scalar, or past an opening bracket, which is then answered. -/
def passFront : Reader (Option Bracket) := do
  match ← skipBlanks with
  | none => Reader.failAhead .eofValue
  | some 0x6E => do
    Reader.skip
    finishWord [0x75, 0x6C, 0x6C]
    return none
  | some 0x74 => do
    Reader.skip
    finishWord [0x72, 0x75, 0x65]
    return none
  | some 0x66 => do
    Reader.skip
    finishWord [0x61, 0x6C, 0x73, 0x65]
    return none
  | some 0x2D => do
    Reader.skip
    passNumberDigits
    return none
  | some 0x22 => do
    passText
    return none
  | some 0x5B => do
    Reader.skip
    return some .list
  | some 0x7B => do
    Reader.skip
    return some .object
  | some b =>
    if isDigitByte b then do
      passNumberDigits
      return none
    else Reader.failAhead .expectedValue

/-- Moves past a key and its colon. -/
def passKey : Reader Unit := do
  match ← skipBlanks with
  | some 0x22 => passText
  | some _ => Reader.failAhead .keyMustBeString
  | none => Reader.failAhead .eofObject
  colon

/-- The fault of a bracket where a comma or the end is due. -/
def Bracket.expected : Bracket → Cause
  | .list => .expectedListCommaOrEnd
  | .object => .expectedObjectCommaOrEnd

/-- The fault of a bracket that is still open at the end of the document. -/
def Bracket.unfinished : Bracket → Cause
  | .list => .eofList
  | .object => .eofObject

/-- The byte that closes a bracket. -/
def Bracket.closing : Bracket → UInt8
  | .list => 0x5D
  | .object => 0x7D

/-- Moves past closing brackets, and past a comma after at least one value. Answers the brackets
still open, innermost first; none are left when the value is complete. -/
def passClosings : List Bracket → Bool → Reader (List Bracket)
  | [], _ => return []
  | b :: outer, valueBefore => do
    match ← skipBlanks with
    | none => Reader.failAhead b.unfinished
    | some c =>
      if valueBefore && c = 0x2C then do
        Reader.skip
        return b :: outer
      else if c = b.closing then do
        Reader.skip
        passClosings outer true
      else if valueBefore then Reader.failAhead b.expected
      else return b :: outer

/-- Moves past the values inside the open brackets. -/
def passNested : Nat → List Bracket → Reader Unit
  | 0, _ => Reader.failAhead .eofValue
  | fuel + 1, stack => do
    let opened ← passFront
    let open? ← passClosings (opened.toList ++ stack) opened.isNone
    match open? with
    | [] => return ()
    | .list :: _ => passNested fuel open?
    | .object :: _ => do
      passKey
      passNested fuel open?

/-- Moves past one value. -/
def passValue : Reader Unit := fun s => passNested (s.length + 1) [] s

end MetricsHarness.Json

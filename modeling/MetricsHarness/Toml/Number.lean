import MetricsHarness.Binary64.Reading
import MetricsHarness.Toml.Item

/-!
# Numbers, dates and times of TOML

Digits may have single underscores between them. A whole number has no leading zeros and fits 64
bits; hexadecimal, octal and binary ones have no sign. A number with a fraction or an exponent must
not exceed the finite range upwards. Dates must exist, and of date and time either may stand alone.
-/

namespace MetricsHarness.Toml

/-- A run of digits with single underscores between them, and what follows it. -/
def cutDigits? (isDigit : Char → Bool) : List Char → Option (List Char × List Char)
  | [] => none
  | c :: rest =>
    if isDigit c then
      match rest with
      | '_' :: more => (cutDigits? isDigit more).map fun (ds, last) => (c :: ds, last)
      | more =>
        match cutDigits? isDigit more with
        | some (ds, last) => some (c :: ds, last)
        | none => if more.head?.any isDigit then none else some ([c], more)
    else none

/-- A number of exactly some digits, within bounds, and what follows it. -/
def cutField? (width least greatest : Nat) (cs : List Char) : Option (Nat × List Char) :=
  if cs.length < width then none
  else match Text.value? 10 (cs.take width) with
    | none => none
    | some n => if least ≤ n && n ≤ greatest then some (n, cs.drop width) else none

/-- What follows a character, if it is next. -/
def after? (c : Char) : List Char → Option (List Char)
  | d :: rest => if d = c then some rest else none
  | [] => none

/-- The days of a month. -/
def daysIn (year month : Nat) : Nat :=
  if month = 2 then
    if (year % 4 = 0 && year % 100 != 0) || year % 400 = 0 then 29 else 28
  else if [4, 6, 9, 11].contains month then 30
  else 31

/-- What follows a date. -/
def cutDate? (cs : List Char) : Option (List Char) := do
  let (year, rest) ← cutField? 4 0 9999 cs
  let (month, rest) ← cutField? 2 1 12 (← after? '-' rest)
  let (_, rest) ← cutField? 2 1 (daysIn year month) (← after? '-' rest)
  return rest

/-- What follows a fraction of a second, or the text itself. -/
def afterFraction? (cs : List Char) : Option (List Char) :=
  match cs with
  | '.' :: rest =>
    if rest.head?.any Text.isDigit then some (rest.dropWhile Text.isDigit) else none
  | _ => some cs

/-- What follows a time of day. -/
def cutTime? (cs : List Char) : Option (List Char) := do
  let (_, rest) ← cutField? 2 0 23 cs
  let (_, rest) ← cutField? 2 0 59 (← after? ':' rest)
  let (_, rest) ← cutField? 2 0 60 (← after? ':' rest)
  afterFraction? rest

/-- What follows an offset from universal time, or the text itself. -/
def afterOffset? (cs : List Char) : Option (List Char) :=
  match cs with
  | 'Z' :: rest => some rest
  | 'z' :: rest => some rest
  | c :: rest =>
    if c == '+' || c == '-' then do
      let (_, more) ← cutField? 2 0 23 rest
      let (_, last) ← cutField? 2 0 59 (← after? ':' more)
      return last
    else some cs
  | [] => some []

/-- Whether a text begins as a time of day does. -/
def looksLikeTime (cs : List Char) : Bool :=
  (cutField? 2 0 23 cs).any fun (_, rest) => rest.head? == some ':'

/-- What follows a date and, if there is one, the time after it. -/
def cutMoment? (cs : List Char) : Option (List Char) :=
  match cutDate? cs with
  | none => none
  | some rest =>
    match rest with
    | c :: more =>
      if (c == 'T' || c == 't' || c == ' ') && looksLikeTime more then
        (cutTime? more).bind afterOffset?
      else some rest
    | [] => some []

/-- Whether a text begins as a date does. -/
def looksLikeDate (cs : List Char) : Bool :=
  (cutField? 4 0 9999 cs).any fun (_, rest) => rest.head? == some '-'

/-- A sign and what follows it. -/
def cutSign : List Char → List Char × List Char
  | '+' :: rest => (['+'], rest)
  | '-' :: rest => (['-'], rest)
  | cs => ([], cs)

/-- The digits of a whole number without leading zeros, and what follows them. -/
def cutWhole? (cs : List Char) : Option (List Char × List Char) :=
  match cs with
  | '0' :: rest => some (['0'], rest)
  | cs => cutDigits? Text.isDigit cs

/-- The text of an exponent and what follows it; nothing if there is none. -/
def cutExponent? (cs : List Char) : Option (List Char × List Char) :=
  match cs with
  | c :: rest =>
    if c == 'e' || c == 'E' then
      let (sign, digits) := cutSign rest
      (cutDigits? Text.isDigit digits).map fun (ds, last) => ('e' :: sign ++ ds, last)
    else some ([], cs)
  | [] => some ([], [])

/-- The text of a fraction and what follows it; nothing if there is none. -/
def cutFraction? (cs : List Char) : Option (List Char × List Char) :=
  match cs with
  | '.' :: rest => (cutDigits? Text.isDigit rest).map fun (ds, last) => ('.' :: ds, last)
  | cs => some ([], cs)

/-- A whole number within 64 bits. -/
def integerOf? (i : Int) : Option Scalar :=
  if -(Text.int64Least : Int) ≤ i && i ≤ Text.int64Greatest then some (.integer (Int64.ofInt i))
  else none

/-- The value of the text of a number with a fraction or an exponent. -/
def realOf? (text : List Char) : Option Scalar :=
  match Binary64.read text with
  | .ok x => if x.isFinite || x.negative then some (.real x) else none
  | .error _ => none

/-- Reads a number with a radix after its lead. -/
def readRadix? (radix : Nat) (cs : List Char) : Option (Scalar × List Char) :=
  match cutDigits? (fun c => (Text.digitValue? radix c).isSome) cs with
  | none => none
  | some (ds, rest) =>
    match (Text.value? radix ds).bind fun n => integerOf? n with
    | some value => some (value, rest)
    | none => none

/-- Reads a number in decimal. -/
def readDecimal? (cs : List Char) : Option (Scalar × List Char) := do
  let (sign, body) := cutSign cs
  match body with
  | 'i' :: 'n' :: 'f' :: rest => return (.real (.infinity (sign == ['-'])), rest)
  | 'n' :: 'a' :: 'n' :: rest => return (.real (.nan (sign == ['-'])), rest)
  | _ => do
    let (whole, rest) ← cutWhole? body
    let (fraction, rest) ← cutFraction? rest
    let (exponent, rest) ← cutExponent? rest
    if fraction.isEmpty && exponent.isEmpty then
      let n ← Text.value? 10 whole
      let value ← integerOf? (if sign == ['-'] then -(n : Int) else n)
      return (value, rest)
    else
      let value ← realOf? (sign ++ whole ++ fraction ++ exponent)
      return (value, rest)

/-- Reads a number, a date or a time. -/
def readNumber? (cs : List Char) : Option (Scalar × List Char) :=
  if looksLikeDate cs then (cutMoment? cs).map (Scalar.moment, ·)
  else if looksLikeTime cs then (cutTime? cs).map (Scalar.moment, ·)
  else match cs with
    | '0' :: 'x' :: rest => readRadix? 16 rest
    | '0' :: 'o' :: rest => readRadix? 8 rest
    | '0' :: 'b' :: rest => readRadix? 2 rest
    | cs => readDecimal? cs

end MetricsHarness.Toml

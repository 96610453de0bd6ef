import MetricsHarness.Binary64.Shortest

/-!
# Laying out a double as text

All texts of a number share the shortest digits and differ in layout: from which exponents on they
use scientific form, whether a whole number keeps `.0`, whether a positive exponent has a plus
sign, how ties between digits go, and what is written for the numbers that are not finite. Each
format is one `Layout` value:

- `plain`, the text inside encoded samples and messages, never scientific;
- `marked`, which always shows that the number is not an integer;
- `described`, the number in a complaint about a value of the wrong kind, never scientific either;
- `document`, the number of a JSON document, which has no text for numbers that are not finite.
-/

namespace MetricsHarness.Binary64

/-- The decisions of one text format. -/
structure Layout where
  /-- Which of two equally short and equally near digit strings is taken. -/
  tie : Tie
  /-- The range of leading exponents written positionally; none means every exponent. -/
  positional : Option (Int × Int)
  /-- Whether a whole number in positional form ends in `.0`. -/
  pointZero : Bool
  /-- Whether a positive exponent has a plus sign. -/
  plusExponent : Bool
  /-- The texts of no number, and of infinity without its sign; none where the format has one text
  for all three. -/
  special : Option (String × String)
  deriving Repr

/-- Digits without the zeros at their end, and the exponent that makes up for them. -/
def dropZeros : List Char → Int → List Char × Int
  | cs, e =>
    let tail := cs.reverse.takeWhile (· == '0')
    (cs.take (cs.length - tail.length), e + tail.length)

/-- Digits times a power of ten, written with a point. -/
def positionalChars (pointZero : Bool) (ds : List Char) (e : Int) : List Char :=
  if 0 ≤ e then
    ds ++ List.replicate e.toNat '0' ++ (if pointZero then ['.', '0'] else [])
  else
    let fraction := (-e).toNat
    if fraction < ds.length then
      ds.take (ds.length - fraction) ++ '.' :: ds.drop (ds.length - fraction)
    else '0' :: '.' :: (List.replicate (fraction - ds.length) '0' ++ ds)

/-- Digits times a power of ten in scientific form. -/
def scientificChars (plusExponent : Bool) (ds : List Char) (e : Int) : List Char :=
  let x := e + ds.length - 1
  let mantissa := match ds with
    | [] => ['0']
    | [d] => [d]
    | d :: more => d :: '.' :: more
  mantissa ++ 'e' :: ((if plusExponent && 0 ≤ x then ['+'] else []) ++ Text.signedNumeralChars x)

/-- A finite positive magnitude in a layout. -/
def Layout.magnitude (l : Layout) (n : Nat) : List Char :=
  let d := shortest l.tie n
  let (ds, e) := dropZeros (Text.numeralChars d.digits) d.exponent
  let x := e + ds.length - 1
  match l.positional with
  | none => positionalChars l.pointZero ds e
  | some (least, greatest) =>
    if least ≤ x && x ≤ greatest then positionalChars l.pointZero ds e
    else scientificChars l.plusExponent ds e

/-- A number in a layout. -/
def Layout.chars (l : Layout) (x : Binary64) : List Char :=
  let sign := if x.negative then ['-'] else []
  if x.isFinite then
    sign ++ (if x.isZero then positionalChars l.pointZero ['0'] 0 else l.magnitude x.ordinal)
  else match l.special with
    | none => "null".toList
    | some (nan, infinity) => if x.isNaN then nan.toList else sign ++ infinity.toList

/-- The text of a number in a layout. -/
def Layout.text (l : Layout) (x : Binary64) : String := String.ofList (l.chars x)

/-- The plain layout is always positional and writes whole numbers without a point. -/
def plain : Layout where
  tie := .up
  positional := none
  pointZero := false
  plusExponent := false
  special := some ("NaN", "inf")

/-- The marked layout keeps `.0` and turns to scientific form below 0.0001 and from 10 to the
power 16 on. -/
def marked : Layout where
  tie := .up
  positional := some (-4, 15)
  pointZero := true
  plusExponent := false
  special := some ("NaN", "inf")

/-- The described layout is always positional and keeps `.0`. -/
def described : Layout where
  tie := .up
  positional := none
  pointZero := true
  plusExponent := false
  special := some ("NaN", "inf")

/-- The document layout keeps `.0`, is positional for leading exponents from -5 to 15, and writes
`null` for a number that is not finite. -/
def document : Layout where
  tie := .toEven
  positional := some (-5, 15)
  pointZero := true
  plusExponent := true
  special := none

end MetricsHarness.Binary64

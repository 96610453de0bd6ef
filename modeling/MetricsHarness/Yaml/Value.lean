import MetricsHarness.Binary64.Layout
import MetricsHarness.Binary64.Reading
import MetricsHarness.Text.Quoted
import MetricsHarness.Yaml.Node

/-!
# What scalars mean

A plain scalar means nothing, a truth value, a number or a text, by its spelling; any other scalar
is a text. Whole numbers may be hexadecimal, octal or binary; digits after a leading zero are a
text. A number with a fraction or an exponent must be finite, and the infinities and no-number have
spellings of their own. A standard tag asks for one kind, and another spelling is a fault.
-/

namespace MetricsHarness.Yaml

/-- The meaning of a scalar. Whole numbers are apart by the width they need. -/
inductive Value where
  | null
  | boolean (b : Bool)
  | whole (i : Int)
  /-- A whole number that needs more than 64 bits. -/
  | wide (i : Int)
  | real (x : Binary64)
  | text (s : String)
  deriving DecidableEq

namespace Value

/-- The spellings of nothing. -/
def isNull (s : String) : Bool := ["null", "Null", "NULL", "~"].contains s

/-- The spellings of the truth values. -/
def boolean? (s : String) : Option Bool :=
  if ["true", "True", "TRUE"].contains s then some true
  else if ["false", "False", "FALSE"].contains s then some false
  else none

/-- A text without one plus sign in front. -/
def withoutPlus : List Char → List Char
  | '+' :: rest => rest
  | cs => cs

/-- The radix and the digits of an unsigned number. -/
def radixDigits : List Char → Nat × List Char
  | '0' :: 'x' :: digits => (16, digits)
  | '0' :: 'o' :: digits => (8, digits)
  | '0' :: 'b' :: digits => (2, digits)
  | digits => (10, digits)

/-- Digits after a leading zero, and a sign before it or none. -/
def isZeroPadded (cs : List Char) : Bool :=
  let digits := match cs with
    | '+' :: rest => rest
    | '-' :: rest => rest
    | _ => cs
  match digits with
  | '0' :: d :: rest => (d :: rest).all Text.isDigit
  | _ => false

/-- Reads the digits of a number up to a limit. -/
def magnitude? (limit : Nat) (cs : List Char) : Option Nat :=
  if isZeroPadded cs then none
  else
    let (radix, digits) := radixDigits cs
    (Text.value? radix digits).filter (· ≤ limit)

/-- Reads an unsigned number up to a limit. -/
def unsigned? (limit : Nat) (cs : List Char) : Option Nat := magnitude? limit (withoutPlus cs)

/-- Reads a number with a minus sign, down to a limit. -/
def negative? (limit : Nat) (cs : List Char) : Option Int :=
  match cs with
  | '-' :: rest => (magnitude? limit rest).map fun n => -Int.ofNat n
  | _ => none

/-- Reads a signed number of 64 bits. -/
def signed? (cs : List Char) : Option Int :=
  match unsigned? Text.int64Greatest cs with
  | some n => some n
  | none => negative? Text.int64Least cs

/-- Reads a whole number of up to 128 bits. -/
def integer? (cs : List Char) : Option Value :=
  match unsigned? Text.nat64Greatest cs, negative? Text.int64Least cs with
  | some n, _ => some (.whole n)
  | none, some i => some (.whole i)
  | none, none =>
    match unsigned? (Nat.pow 2 128 - 1) cs, negative? (Nat.pow 2 127) cs with
    | some n, _ => some (.wide n)
    | none, some i => some (.wide i)
    | none, none => none

/-- Reads a number that may have a fraction and an exponent. -/
def real? (cs : List Char) : Option Binary64 :=
  let body := withoutPlus cs
  let isSigned := match body with
    | '+' :: _ => true
    | '-' :: _ => true
    | _ => false
  if body.length < cs.length && isSigned then none
  else if [".inf", ".Inf", ".INF"].contains (String.ofList body) then some (.infinity false)
  else if ["-.inf", "-.Inf", "-.INF"].contains (String.ofList cs) then some (.infinity true)
  else if [".nan", ".NaN", ".NAN"].contains (String.ofList cs) then some (.nan false)
  else match Binary64.read body with
    | .ok x => if x.isFinite then some x else none
    | .error _ => none

/-- What a plain scalar means. -/
def ofPlain (s : String) : Value :=
  if s.isEmpty || isNull s then .null
  else match boolean? s with
    | some b => .boolean b
    | none =>
      match integer? s.toList with
      | some v => v
      | none =>
        if isZeroPadded s.toList then .text s
        else match real? s.toList with
          | some x => .real x
          | none => .text s

/-- A whole number of more than 64 bits in a fault. -/
def wideText (i : Int) : String :=
  s!"integer `{Text.signedNumeral i}` as " ++ (if 0 ≤ i then "u128" else "i128")

/-- What a fault calls a value. -/
def describe : Value → String
  | .null => "unit value"
  | .boolean b => if b then "boolean `true`" else "boolean `false`"
  | .whole i => s!"integer `{Text.signedNumeral i}`"
  | .wide i => wideText i
  | .real x => s!"floating point `{Binary64.described.text x}`"
  | .text s => "string " ++ Text.quoted s

end Value

/-- The wording of a value of the wrong kind. -/
def wrongKind (found expected : String) : String := s!"invalid type: {found}, expected {expected}"

/-- The wording of a text that its tag does not allow. -/
def wrongText (text expected : String) : String :=
  s!"invalid value: string {Text.quoted text}, expected {expected}"

/-- What a scalar means under its tag, or what is wrong with it. -/
def scalarValue (tag : Option Tag) (style : Style) (text : String) : Except String Value :=
  let untagged : Value := if style = .plain then Value.ofPlain text else .text text
  match tag with
  | none | some .named | some .nameless => .ok untagged
  | some .boolean =>
    match Value.boolean? text with
    | some b => .ok (.boolean b)
    | none => .error (wrongText text "a boolean")
  | some .integer =>
    match Value.integer? text.toList with
    | some v => .ok v
    | none => .error (wrongText text "an integer")
  | some .real =>
    match Value.real? text.toList with
    | some x => .ok (.real x)
    | none => .error (wrongText text "a float")
  | some .null => if Value.isNull text then .ok .null else .error (wrongText text "null")
  | some .other => .ok (.text text)

end MetricsHarness.Yaml

import MetricsHarness.Text.Letters
import MetricsHarness.Text.Numeral

/-!
# Patterns

A pattern is a regular expression: characters, escapes and classes in brackets, followed by `*`,
`+` or `?`, in groups and between bars. `isPattern` says which texts are patterns; what a pattern
matches is not read, because nothing the harness logs is ever compared with one.

A counted repetition has braces. The texts read here hold no closing brace, so a brace that opens
outside of a class never closes, and such a text is no pattern. The edges of words (`\b`, `\<` and
the like) are no part of a pattern either, because words are those of all scripts.
-/

namespace MetricsHarness.Pattern

open Text

/-- What an escape or a character stands for. -/
inductive Atom where
  | character (c : Char)
  | set
  | edge

/-- A character by its number in exactly `count` hexadecimal digits. -/
def readNumber? (count : Nat) (cs : List Char) : Option (Atom × List Char) :=
  if (cs.take count).length = count then
    (value? 16 (cs.take count)).bind fun n =>
      if n.isValidChar then some (.character (Char.ofNat n), cs.drop count) else none
  else none

/-- A set of characters by the letter of its category. -/
def readCategory? : List Char → Option (Atom × List Char)
  | c :: rest => if "CLMNPSZ".toList.contains c.toUpper then some (.set, rest) else none
  | [] => none

/-- Reads an escape after its backslash. -/
def readEscape? : List Char → Option (Atom × List Char)
  | [] => none
  | c :: rest =>
    match c with
    | 'x' => readNumber? 2 rest
    | 'u' => readNumber? 4 rest
    | 'U' => readNumber? 8 rest
    | 'p' | 'P' => readCategory? rest
    | 'd' | 'D' | 's' | 'S' | 'w' | 'W' => some (.set, rest)
    | 'A' | 'z' => some (.edge, rest)
    | 'a' => some (.character '\x07', rest)
    | 'f' => some (.character '\x0c', rest)
    | 'n' => some (.character '\n', rest)
    | 'r' => some (.character '\r', rest)
    | 't' => some (.character '\t', rest)
    | 'v' => some (.character '\x0b', rest)
    | c =>
      if c.toNat < 0x80 && !c.isAlphanum && c != '<' && c != '>' then some (.character c, rest)
      else none

/-! ## Classes -/

/-- The names of classes that stand between `[:` and `:]`. -/
def classNames : List String :=
  ["alnum", "alpha", "ascii", "blank", "cntrl", "digit", "graph", "lower", "print", "punct",
    "space", "upper", "word", "xdigit"]

/-- What follows a named class, after its opening bracket. -/
def afterNamed? : List Char → Option (List Char)
  | ':' :: rest =>
    let named := match rest with
      | '^' :: more => more
      | more => more
    match named.dropWhile (· != ':') with
    | ':' :: ']' :: after =>
      if classNames.contains (String.ofList (named.takeWhile (· != ':'))) then some after else none
    | _ => none
  | _ => none

/-- What follows the opening of a class: its bracket, a caret, dashes that stand for themselves,
and without these a closing bracket that stands for itself. -/
def afterOpening (cs : List Char) : List Char :=
  let inside := match cs with
    | '^' :: rest => rest
    | _ => cs
  match inside with
  | ']' :: rest => rest
  | _ => inside.dropWhile (· == '-')

/-- Reads one item of a class. -/
def readItem? : List Char → Option (Atom × List Char)
  | [] => none
  | '\\' :: rest => readEscape? rest
  | c :: rest => some (.character c, rest)

/-- Reads an item of a class, or a range of two characters in order. -/
def readRange? (cs : List Char) : Option (List Char) :=
  match readItem? cs with
  | none | some (.edge, _) => none
  | some (first, rest) =>
    match rest with
    | '-' :: ']' :: _ | '-' :: '-' :: _ => some rest
    | '-' :: more =>
      match first, readItem? more with
      | .character a, some (.character b, after) => if a ≤ b then some after else none
      | _, _ => none
    | _ => some rest

/-- What follows a class whose items are up next, in `depth` more classes that are open. The fuel
bounds the number of items. -/
def afterClass? : Nat → Nat → List Char → Option (List Char)
  | 0, _, _ => none
  | fuel + 1, depth, cs =>
    match cs with
    | [] => none
    | ']' :: rest =>
      match depth with
      | 0 => some rest
      | depth + 1 => afterClass? fuel depth rest
    | '[' :: rest =>
      match afterNamed? rest with
      | some after => afterClass? fuel depth after
      | none => afterClass? fuel (depth + 1) (afterOpening rest)
    | '&' :: '&' :: rest | '-' :: '-' :: rest | '~' :: '~' :: rest => afterClass? fuel depth rest
    | cs => (readRange? cs).bind (afterClass? fuel depth)

/-! ## Groups -/

/-- A letter or an underscore, which begins the name of a group. -/
def beginsName (c : Char) : Bool := (isAlphanumeric c && !isDigit c) || c == '_'

/-- The name of a group, which ends in `>`, and what follows. -/
def readName? (cs : List Char) : Option (List Char × List Char) :=
  match cs.takeWhile (· != '>'), cs.dropWhile (· != '>') with
  | first :: more, _ :: rest =>
    if beginsName first && more.all fun c => beginsName c || isDigit c || ".[]".toList.contains c
    then some (first :: more, rest)
    else none
  | _, _ => none

/-- Whether flags are letters, each once, with at most one minus sign, which a letter follows. -/
def areFlags (cs : List Char) : Bool :=
  cs.all ("imsUuRx-".toList.contains ·) && decide cs.Nodup && cs.getLast? != some '-'

/-- What an opening parenthesis begins: a group, perhaps with a name, or flags alone. -/
inductive Opening where
  | group (name : Option (List Char))
  | flags

/-- Reads what follows an opening parenthesis. -/
def readOpening? (cs : List Char) : Option (Opening × List Char) :=
  match cs with
  | '?' :: 'P' :: '<' :: rest | '?' :: '<' :: rest =>
    (readName? rest).map fun (name, rest) => (.group (some name), rest)
  | '?' :: rest =>
    let flags := rest.takeWhile fun c => c != ':' && c != ')'
    match rest.dropWhile fun c => c != ':' && c != ')' with
    | ':' :: after => if areFlags flags then some (.group none, after) else none
    | ')' :: after => if !flags.isEmpty && areFlags flags then some (.flags, after) else none
    | _ => none
  | cs => some (.group none, cs)

/-! ## Patterns -/

/-- Whether a text completes a pattern in which `depth` groups are open and have the names `names`.
A sign of repetition needs something to repeat. The fuel bounds the number of parts. -/
def completes : Nat → Nat → List (List Char) → Bool → List Char → Bool
  | 0, _, _, _, _ => false
  | fuel + 1, depth, names, repeatable, cs =>
    match cs with
    | [] => depth == 0
    | '(' :: rest =>
      match readOpening? rest with
      | none => false
      | some (.flags, rest) => completes fuel depth names false rest
      | some (.group none, rest) => completes fuel (depth + 1) names false rest
      | some (.group (some name), rest) =>
        !names.contains name && completes fuel (depth + 1) (name :: names) false rest
    | ')' :: rest => 0 < depth && completes fuel (depth - 1) names true rest
    | '|' :: rest => completes fuel depth names false rest
    | '*' :: rest | '+' :: rest | '?' :: rest => repeatable && completes fuel depth names true rest
    | '\x7b' :: _ => false
    | '[' :: rest =>
      match afterClass? (rest.length + 1) 0 (afterOpening rest) with
      | some after => completes fuel depth names true after
      | none => false
    | '\\' :: rest =>
      match readEscape? rest with
      | some (_, after) => completes fuel depth names true after
      | none => false
    | _ :: rest => completes fuel depth names true rest

/-- Whether a text is a pattern. -/
def isPattern (cs : List Char) : Bool := completes (cs.length + 1) 0 [] false cs

end MetricsHarness.Pattern

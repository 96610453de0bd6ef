import MetricsHarness.Script.Command
import MetricsHarness.Text.Numeral

/-!
# Lexemes of scripts

A script is cut into words, operators, redirections and ends of lines. A word ends at a blank, at
the end of the line or at an operator, unless they stand in quotes or behind a backslash. From a
`#` at the front of a word to the end of the line everything is passed over.
-/

namespace MetricsHarness.Script

/-- A lexeme. -/
inductive Lexeme where
  | word (word : Word)
  | operator (text : List Char)
  | redirect (stream : Nat) (kind : RedirectKind)
  | lineEnd
  deriving DecidableEq

/-- A character of the name of a variable. -/
def isNameChar (c : Char) : Bool := c.isAlphanum || c == '_'

/-- A name that stands for one character. -/
def isSpecialName (c : Char) : Bool := "@*#?$!-".toList.contains c || Text.isDigit c

/-- A character that ends a word. -/
def endsWord (c : Char) : Bool := " \t\n;&|<>()".toList.contains c

/-- The text up to two closing brackets that close none inside, and what follows them. -/
def cutSum : Nat → List Char → Option (List Char × List Char)
  | 0, ')' :: ')' :: rest => some ([], rest)
  | _, [] => none
  | depth, '(' :: rest => (cutSum (depth + 1) rest).map fun (e, r) => ('(' :: e, r)
  | depth, ')' :: rest => (cutSum (depth - 1) rest).map fun (e, r) => (')' :: e, r)
  | depth, c :: rest => (cutSum depth rest).map fun (e, r) => (c :: e, r)

/-- What a dollar sign in front of a text stands for, and what follows it. -/
def readDollar (inQuotes : Bool) (cs : List Char) : Option (Part × List Char) :=
  match cs with
  | '(' :: '(' :: rest => (cutSum 0 rest).map fun (e, r) => (.sum e inQuotes, r)
  | '(' :: _ => none
  | '\x7b' :: rest =>
    let name := rest.takeWhile (· != '\x7d')
    match rest.dropWhile (· != '\x7d') with
    | [] => none
    | _ :: after =>
      if name.all isNameChar || (name.length == 1 && name.all isSpecialName) then
        some (.value name inQuotes, after)
      else none
  | c :: rest =>
    if isSpecialName c then some (.value [c] inQuotes, rest)
    else if isNameChar c then
      some (.value (cs.takeWhile isNameChar) inQuotes, cs.dropWhile isNameChar)
    else some (.quoted ['$'], cs)
  | [] => some (.quoted ['$'], [])

/-- Reads the parts of a word, with at most `fuel` steps; within double quotes up to the closing
one. -/
def readParts : Nat → Bool → List Char → Option (Word × List Char)
  | 0, _, _ => none
  | fuel + 1, true, cs =>
    match cs with
    | [] => none
    | '"' :: rest => some ([], rest)
    | '\\' :: '\n' :: rest => readParts fuel true rest
    | '\\' :: c :: rest =>
      let text := if "$\x60\"\\".toList.contains c then [c] else ['\\', c]
      (readParts fuel true rest).map fun (ps, r) => (.quoted text :: ps, r)
    | '$' :: rest => do
      let (part, after) ← readDollar true rest
      let (parts, r) ← readParts fuel true after
      return (part :: parts, r)
    | '\x60' :: _ => none
    | c :: rest => (readParts fuel true rest).map fun (ps, r) => (.quoted [c] :: ps, r)
  | fuel + 1, false, cs =>
    match cs with
    | [] => some ([], [])
    | '\x27' :: rest =>
      let text := rest.takeWhile (· != '\x27')
      match rest.dropWhile (· != '\x27') with
      | [] => none
      | _ :: after => (readParts fuel false after).map fun (ps, r) => (.quoted text :: ps, r)
    | '"' :: rest => do
      let (inner, after) ← readParts fuel true rest
      let (parts, r) ← readParts fuel false after
      return (.quoted [] :: inner ++ parts, r)
    | '\\' :: '\n' :: rest => readParts fuel false rest
    | '\\' :: c :: rest => (readParts fuel false rest).map fun (ps, r) => (.quoted [c] :: ps, r)
    | '$' :: rest => do
      let (part, after) ← readDollar false rest
      let (parts, r) ← readParts fuel false after
      return (part :: parts, r)
    | '\x60' :: _ => none
    | c :: rest =>
      if endsWord c then some ([], cs)
      else
        (readParts fuel false rest).map fun
          | (.plain text :: ps, r) => (.plain (c :: text) :: ps, r)
          | (ps, r) => (.plain [c] :: ps, r)

/-- The redirection at the front of a text, and what follows it. -/
def readArrow? (stream : Option Nat) (cs : List Char) : Option (Lexeme × List Char) :=
  match cs with
  | '>' :: '>' :: rest => some (.redirect (stream.getD 1) .append, rest)
  | '>' :: '&' :: rest => some (.redirect (stream.getD 1) .copy, rest)
  | '>' :: '|' :: rest => some (.redirect (stream.getD 1) .write, rest)
  | '>' :: rest => some (.redirect (stream.getD 1) .write, rest)
  | '<' :: '<' :: _ => none
  | '<' :: rest => some (.redirect (stream.getD 0) .read, rest)
  | _ => none

/-- Reads the lexemes of a script, with at most `fuel` of them. -/
def readLexemes : Nat → List Char → Option (List Lexeme)
  | 0, _ => none
  | fuel + 1, cs =>
    match cs with
    | [] => some []
    | ' ' :: rest => readLexemes fuel rest
    | '\t' :: rest => readLexemes fuel rest
    | '\\' :: '\n' :: rest => readLexemes fuel rest
    | '\n' :: rest => (readLexemes fuel rest).map (.lineEnd :: ·)
    | '#' :: rest => readLexemes fuel (rest.dropWhile (· != '\n'))
    | ';' :: ';' :: _ => none
    | ';' :: rest => (readLexemes fuel rest).map (.operator [';'] :: ·)
    | '&' :: '&' :: rest => (readLexemes fuel rest).map (.operator ['&', '&'] :: ·)
    | '&' :: rest => (readLexemes fuel rest).map (.operator ['&'] :: ·)
    | '|' :: '|' :: rest => (readLexemes fuel rest).map (.operator ['|', '|'] :: ·)
    | '|' :: rest => (readLexemes fuel rest).map (.operator ['|'] :: ·)
    | '(' :: rest => (readLexemes fuel rest).map (.operator ['('] :: ·)
    | ')' :: rest => (readLexemes fuel rest).map (.operator [')'] :: ·)
    | cs =>
      let digits := cs.takeWhile Text.isDigit
      match readArrow? (Text.value? 10 digits) (cs.dropWhile Text.isDigit) with
      | some (lexeme, rest) => (readLexemes fuel rest).map (lexeme :: ·)
      | none =>
        match readParts (cs.length + 1) false cs with
        | none => none
        | some (word, rest) => (readLexemes fuel rest).map (.word word :: ·)

/-- The lexemes of a script; none if a quote is not closed or a lexeme is not supported. -/
def lexemes? (cs : List Char) : Option (List Lexeme) := readLexemes (cs.length + 1) cs

end MetricsHarness.Script

import MetricsHarness.Script.Lexeme
import MetricsHarness.Text.Pieces

/-!
# Arithmetic in scripts

Expressions over integers with variables. The operators, the loosest first, are `||`, `&&`, the
comparisons, `+` and `-`, `*`, `/` and `%`, and in front of an operand `-`, `+` and `!`. A variable
without a number counts as zero. Division goes toward zero.
-/

namespace MetricsHarness.Script

/-- A truth value as a number. -/
def truth (b : Bool) : Int := if b then 1 else 0

/-- The operators of each level, the loosest first; longer ones before those they begin with. -/
def sumOperators : List (List String) :=
  [["||"], ["&&"], ["==", "!=", "<=", ">=", "<", ">"], ["+", "-"], ["*", "/", "%"]]

/-- Applies an operator; none for a division by zero. -/
def applyOperator (operator : String) (a b : Int) : Option Int :=
  match operator with
  | "||" => some (truth (a != 0 || b != 0))
  | "&&" => some (truth (a != 0 && b != 0))
  | "==" => some (truth (a == b))
  | "!=" => some (truth (a != b))
  | "<=" => some (truth (a ≤ b))
  | ">=" => some (truth (b ≤ a))
  | "<" => some (truth (a < b))
  | ">" => some (truth (b < a))
  | "+" => some (a + b)
  | "-" => some (a - b)
  | "*" => some (a * b)
  | "/" => if b = 0 then none else some (Int.tdiv a b)
  | "%" => if b = 0 then none else some (Int.tmod a b)
  | _ => none

/-- A text without the blanks in front. -/
def skipBlanks (cs : List Char) : List Char := cs.dropWhile fun c => " \t\n".toList.contains c

/-- The first of some operators that a text begins with, and what follows it. -/
def operator? (operators : List String) (cs : List Char) : Option (String × List Char) :=
  operators.findSome? fun o => (Text.after? o.toList cs).map fun rest => (o, rest)

mutual

/-- Reads operands joined by the operators of the given levels. -/
def readSum (value : List Char → Int) : Nat → List (List String) → List Char →
    Option (Int × List Char)
  | 0, _, _ => none
  | fuel + 1, [], cs => readOperand value fuel (skipBlanks cs)
  | fuel + 1, level :: tighter, cs => do
    let (first, rest) ← readSum value fuel tighter cs
    readSumMore value fuel level tighter first rest

/-- Reads what is joined to an operand. -/
def readSumMore (value : List Char → Int) : Nat → List String → List (List String) → Int →
    List Char → Option (Int × List Char)
  | 0, _, _, _, _ => none
  | fuel + 1, level, tighter, first, cs =>
    match operator? level (skipBlanks cs) with
    | none => some (first, cs)
    | some (operator, rest) => do
      let (second, rest) ← readSum value fuel tighter rest
      readSumMore value fuel level tighter (← applyOperator operator first second) rest

/-- Reads an operand. -/
def readOperand (value : List Char → Int) : Nat → List Char → Option (Int × List Char)
  | 0, _ => none
  | fuel + 1, cs =>
    match cs with
    | '(' :: rest => do
      let (n, rest) ← readSum value fuel sumOperators rest
      match skipBlanks rest with
      | ')' :: after => return (n, after)
      | _ => none
    | '-' :: rest => (readOperand value fuel (skipBlanks rest)).map fun (n, r) => (-n, r)
    | '+' :: rest => readOperand value fuel (skipBlanks rest)
    | '!' :: rest =>
      (readOperand value fuel (skipBlanks rest)).map fun (n, r) => (truth (n == 0), r)
    | '$' :: rest => some (value (rest.takeWhile isNameChar), rest.dropWhile isNameChar)
    | _ =>
      let word := cs.takeWhile isNameChar
      match Text.value? 10 word with
      | some n => some (n, cs.dropWhile isNameChar)
      | none => if word.isEmpty then none else some (value word, cs.dropWhile isNameChar)

end

/-- The value of an expression; none if it is ill-formed. -/
def sum? (value : List Char → Int) (expression : List Char) : Option Int := do
  let (n, rest) ← readSum value (16 * expression.length + 16) sumOperators expression
  if (skipBlanks rest).isEmpty then some n else none

end MetricsHarness.Script

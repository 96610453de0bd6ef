import MetricsHarness.Process.Basic

/-!
# Conditions of scripts

What `test` finds true: a text that is not empty, two texts or numbers that compare as asked, and a
path that leads to a file or a directory. A `!` in front negates the rest.
-/

namespace MetricsHarness.Process

/-- Whether a path leads to a directory. -/
def isDirectoryAt (files : Files) (path : String) : Bool :=
  match files.find path with
  | .ok place => files.entry? place == some .directory
  | .error _ => false

/-- A condition with one operand. -/
def holdsOne? (files : Files) (operator operand : List Char) : Option Bool :=
  let path := String.ofList operand
  match String.ofList operator with
  | "-n" => some !operand.isEmpty
  | "-z" => some operand.isEmpty
  | "-e" => some (files.exists? path)
  | "-f" => some (files.exists? path && !isDirectoryAt files path)
  | "-d" => some (isDirectoryAt files path)
  | "-x" => some (Program.executable files path).toBool
  | _ => none

/-- A condition with two operands. -/
def holdsTwo? (a operator b : List Char) : Option Bool :=
  let m := Script.numberOf a
  let n := Script.numberOf b
  match String.ofList operator with
  | "=" => some (a == b)
  | "==" => some (a == b)
  | "!=" => some (a != b)
  | "-eq" => some (m == n)
  | "-ne" => some (m != n)
  | "-lt" => some (m < n)
  | "-le" => some (m ≤ n)
  | "-gt" => some (n < m)
  | "-ge" => some (n ≤ m)
  | _ => none

/-- Whether a condition holds; none if it is ill-formed. -/
def holds? (files : Files) : List (List Char) → Option Bool
  | [] => some false
  | ['!'] :: rest =>
    match rest with
    | [] => some true
    | _ => (holds? files rest).map (!·)
  | [text] => some !text.isEmpty
  | [operator, operand] => holdsOne? files operator operand
  | [a, operator, b] => holdsTwo? a operator b
  | _ => none

end MetricsHarness.Process

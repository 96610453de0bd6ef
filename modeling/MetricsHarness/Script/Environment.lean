import MetricsHarness.Script.Format
import MetricsHarness.Script.Sum

/-!
# The environment of a script

A script knows its name, its arguments, its variables and its traps. A word expands to fields: what
stands in quotes stays together, while the values of names outside of quotes are cut at blanks. The
arguments together (`"$@"`) give a field each. File names are not expanded.
-/

namespace MetricsHarness.Script

/-- What a script does when it is asked to end. -/
inductive Trap where
  | ignore
  | action (text : List Char)
  deriving DecidableEq

/-- What a script knows. -/
structure Environment where
  name : List Char
  args : List (List Char)
  bindings : List (List Char × List Char)
  /-- The trap for the request to end. -/
  onTerm : Option Trap
  /-- The trap for the end of the script. -/
  onExit : Option Trap
  /-- The status of the last command. -/
  status : Nat
  /-- The number of the process. -/
  process : Nat

namespace Environment

/-- The environment of a script at its start. -/
def initial (name : List Char) (args : List (List Char)) (process : Nat) : Environment :=
  ⟨name, args, [], none, none, 0, process⟩

/-- Sets a variable. -/
def assign (e : Environment) (name value : List Char) : Environment :=
  { e with bindings := (name, value) :: e.bindings.filter (·.1 != name) }

/-- The value of a name. -/
def value (e : Environment) (name : List Char) : List Char :=
  match name with
  | ['0'] => e.name
  | ['#'] => Text.numeralChars e.args.length
  | ['?'] => Text.numeralChars e.status
  | ['$'] => Text.numeralChars e.process
  | ['@'] => Text.joined [' '] e.args
  | ['*'] => Text.joined [' '] e.args
  | _ =>
    match Text.value? 10 name with
    | some n => (e.args[n - 1]?).getD []
    | none => (e.bindings.lookup name).getD []

/-- The number that a variable holds. -/
def number (e : Environment) (name : List Char) : Int := numberOf (e.value name)

/-- Fields on their way: the finished ones, last first, and the one that is being made. -/
structure Fields where
  done : List (List Char)
  current : Option (List Char)

namespace Fields

/-- Adds text to the open field. -/
def add (f : Fields) (text : List Char) : Fields :=
  { f with current := some (f.current.getD [] ++ text) }

/-- Closes the open field. -/
def cut (f : Fields) : Fields :=
  match f.current with
  | none => f
  | some text => ⟨text :: f.done, none⟩

/-- Adds a value that is cut at blanks. -/
def spread (f : Fields) : List Char → Fields
  | [] => f
  | c :: rest => (if " \t\n".toList.contains c then f.cut else f.add [c]).spread rest

/-- Adds values that are fields of their own. -/
def each (f : Fields) : List (List Char) → Fields
  | [] => f
  | [a] => f.add a
  | a :: rest => (f.add a).cut.each rest

/-- All fields in order. -/
def toList (f : Fields) : List (List Char) := f.cut.done.reverse

end Fields

/-- Expands a part of a word. -/
def expandPart (e : Environment) (f : Fields) : Part → Fields
  | .plain text => f.add text
  | .quoted text => f.add text
  | .value ['@'] true => f.each e.args
  | .value name true => f.add (e.value name)
  | .value name false => f.spread (e.value name)
  | .sum expression inQuotes =>
    let text := (Text.signedNumeral ((sum? e.number expression).getD 0)).toList
    if inQuotes then f.add text else f.spread text

/-- Whether a word is only the arguments together; without arguments it gives no field. -/
def isNoField (e : Environment) (w : Word) : Bool :=
  e.args.isEmpty && w == [.quoted [], .value ['@'] true]

/-- The fields of a word. -/
def expand (e : Environment) (w : Word) : List (List Char) :=
  if e.isNoField w then [] else (w.foldl e.expandPart ⟨[], none⟩).toList

/-- The fields of words. -/
def expandAll (e : Environment) (ws : List Word) : List (List Char) := ws.flatMap e.expand

/-- The text of a word where it is not cut into fields. -/
def text (e : Environment) (w : Word) : List Char :=
  w.flatMap fun
    | .plain text => text
    | .quoted text => text
    | .value name _ => e.value name
    | .sum expression _ => (Text.signedNumeral ((sum? e.number expression).getD 0)).toList

end Environment

end MetricsHarness.Script

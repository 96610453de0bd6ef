/-!
# Commands of scripts

A script is a text in the command language of the system shell. Its words are made of parts, since
what stands in quotes is taken as it is and what stands outside may be cut into several fields. Its
commands are simple ones, and simple ones put together.
-/

namespace MetricsHarness.Script

/-- A part of a word. -/
inductive Part where
  | plain (text : List Char)
  | quoted (text : List Char)
  /-- The value of a variable or of a special name. -/
  | value (name : List Char) (inQuotes : Bool)
  /-- The value of an arithmetic expression. -/
  | sum (expression : List Char) (inQuotes : Bool)
  deriving DecidableEq

/-- A word of a command. -/
abbrev Word := List Part

/-- What a redirection does with a stream. -/
inductive RedirectKind where
  | write
  | append
  | read
  /-- The stream goes where another one goes. -/
  | copy
  deriving DecidableEq

/-- A redirection of a stream, known by its number. -/
structure Redirect where
  stream : Nat
  kind : RedirectKind
  target : Word
  deriving DecidableEq

/-- A command. -/
inductive Command where
  | nothing
  | simple (assignments : List (List Char × Word)) (words : List Word)
      (redirects : List Redirect)
  | seq (first second : Command)
  | and (first second : Command)
  | or (first second : Command)
  | not (command : Command)
  | choice (condition yes no : Command)
  /-- Runs the body as long as the status of the condition is, or with `negated` is not, zero. -/
  | loop (negated : Bool) (condition body : Command)
  | each (name : List Char) (values : List Word) (body : Command)
  | group (body : Command) (redirects : List Redirect)
  /-- A group whose changes to variables and traps end with it. -/
  | apart (body : Command) (redirects : List Redirect)
  | background (command : Command)

end MetricsHarness.Script

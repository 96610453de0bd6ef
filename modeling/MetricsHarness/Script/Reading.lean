import MetricsHarness.Script.Lexeme

/-!
# Reading scripts

Commands are separated by semicolons and line ends and joined by `&&` and `||`, both of the same
weight. At the front of a command some words are keywords, which open and close compound commands.
Pipes, functions and case distinctions are not supported; a script that has one is refused like a
script that is ill-formed.
-/

namespace MetricsHarness.Script

/-- The text of a word that may be a keyword: one without quotes and values. -/
def Lexeme.keyword? : Lexeme → Option (List Char)
  | .word [.plain text] => some text
  | _ => none

/-- Whether a lexeme is a keyword or an operator with this text. -/
def Lexeme.isMark (text : String) : Lexeme → Bool
  | .operator t => t == text.toList
  | l => l.keyword? == some text.toList

/-- A command is complete in front of these keywords and operators. -/
def Lexeme.closes (l : Lexeme) : Bool :=
  ["then", "else", "elif", "fi", "do", "done", "\x7d", ")"].any (l.isMark ·)

/-- Passes over line ends. -/
def skipLines : List Lexeme → List Lexeme
  | .lineEnd :: rest => skipLines rest
  | ls => ls

/-- What follows an expected mark. -/
def expect (text : String) : List Lexeme → Option (List Lexeme)
  | l :: rest => if l.isMark text then some rest else none
  | [] => none

/-- The variable and the value of a word that is an assignment. -/
def assignment? : Word → Option (List Char × Word)
  | .plain text :: rest =>
    let name := text.takeWhile isNameChar
    match text.dropWhile isNameChar with
    | '=' :: value =>
      if name.isEmpty || name.head?.any Text.isDigit then none
      else some (name, if value.isEmpty then rest else .plain value :: rest)
    | _ => none
  | _ => none

/-- Redirections at the front of lexemes, and what follows them. -/
def readRedirects : List Lexeme → List Redirect × List Lexeme
  | .redirect stream kind :: .word target :: rest =>
    let (more, r) := readRedirects rest
    (⟨stream, kind, target⟩ :: more, r)
  | ls => ([], ls)

/-- The words and redirections of a simple command, and what follows it. -/
def readSimple : List Lexeme → List Word × List Redirect × List Lexeme
  | .redirect stream kind :: .word target :: rest =>
    let (words, redirects, r) := readSimple rest
    (words, ⟨stream, kind, target⟩ :: redirects, r)
  | .word word :: rest =>
    let (words, redirects, r) := readSimple rest
    (word :: words, redirects, r)
  | ls => ([], [], ls)

/-- A simple command of words and redirections. -/
def simpleOf (words : List Word) (redirects : List Redirect) : Command :=
  let assignments := (words.takeWhile fun w => (assignment? w).isSome).filterMap assignment?
  .simple assignments (words.dropWhile fun w => (assignment? w).isSome) redirects

/-- The words in front of the end of a line or an operator. -/
def readWords : List Lexeme → List Word × List Lexeme
  | .word word :: rest =>
    let (words, r) := readWords rest
    (word :: words, r)
  | ls => ([], ls)

mutual

/-- Reads commands one after the other, up to a keyword that closes them. -/
def readSeq : Nat → List Lexeme → Option (Command × List Lexeme)
  | 0, _ => none
  | fuel + 1, ls =>
    match skipLines ls with
    | [] => some (.nothing, [])
    | l :: rest =>
      if l.closes then some (.nothing, l :: rest)
      else do
        let (first, after) ← readJoined fuel (l :: rest)
        match after with
        | .operator ['&'] :: more =>
          let (second, r) ← readSeq fuel more
          return (.seq (.background first) second, r)
        | .operator [';'] :: more | .lineEnd :: more =>
          let (second, r) ← readSeq fuel more
          return (.seq first second, r)
        | [] => return (first, [])
        | l :: more => if l.closes then return (first, l :: more) else none

/-- Reads commands joined by `&&` and `||`. -/
def readJoined : Nat → List Lexeme → Option (Command × List Lexeme)
  | 0, _ => none
  | fuel + 1, ls => do
    let (first, rest) ← readNegated fuel ls
    readMore fuel first rest

/-- Reads what is joined to a command. -/
def readMore : Nat → Command → List Lexeme → Option (Command × List Lexeme)
  | 0, _, _ => none
  | fuel + 1, first, ls =>
    match ls with
    | .operator ['&', '&'] :: rest => do
      let (second, r) ← readNegated fuel (skipLines rest)
      readMore fuel (.and first second) r
    | .operator ['|', '|'] :: rest => do
      let (second, r) ← readNegated fuel (skipLines rest)
      readMore fuel (.or first second) r
    | _ => some (first, ls)

/-- Reads a command that may be negated. -/
def readNegated : Nat → List Lexeme → Option (Command × List Lexeme)
  | 0, _ => none
  | fuel + 1, ls =>
    match ls with
    | [] => none
    | l :: rest =>
      if l.keyword? = some ['!'] then do
        let (c, r) ← readCommand fuel rest
        return (.not c, r)
      else readCommand fuel ls

/-- Reads one command. -/
def readCommand : Nat → List Lexeme → Option (Command × List Lexeme)
  | 0, _ => none
  | fuel + 1, ls =>
    match ls with
    | [] => none
    | l :: rest =>
      if l.closes then none
      else if l.isMark "if" then do
        let (c, r) ← readChoice fuel rest
        let (redirects, r) := readRedirects r
        return (.group c redirects, r)
      else if l.isMark "while" || l.isMark "until" then do
        let (condition, r) ← readSeq fuel rest
        let (body, r) ← readSeq fuel (← expect "do" r)
        let r ← expect "done" r
        let (redirects, r) := readRedirects r
        return (.group (.loop (l.isMark "until") condition body) redirects, r)
      else if l.isMark "for" then
        match rest with
        | .word [.plain name] :: r => readEach fuel name (skipLines r)
        | _ => none
      else if l.isMark "\x7b" then do
        let (body, r) ← readSeq fuel rest
        let r ← expect "\x7d" r
        let (redirects, r) := readRedirects r
        return (.group body redirects, r)
      else if l = .operator ['('] then do
        let (body, r) ← readSeq fuel rest
        let r ← expect ")" r
        let (redirects, r) := readRedirects r
        return (.apart body redirects, r)
      else
        let (words, redirects, r) := readSimple ls
        if words.isEmpty && redirects.isEmpty then none
        else some (simpleOf words redirects, r)

/-- Reads a distinction after its keyword. -/
def readChoice : Nat → List Lexeme → Option (Command × List Lexeme)
  | 0, _ => none
  | fuel + 1, ls => do
    let (condition, r) ← readSeq fuel ls
    let (yes, r) ← readSeq fuel (← expect "then" r)
    match r with
    | l :: rest =>
      if l.isMark "elif" then
        let (no, r) ← readChoice fuel rest
        return (.choice condition yes no, r)
      else if l.isMark "else" then
        let (no, r) ← readSeq fuel rest
        return (.choice condition yes no, ← expect "fi" r)
      else if l.isMark "fi" then return (.choice condition yes .nothing, rest)
      else none
    | [] => none

/-- Reads a loop over values after its variable. -/
def readEach : Nat → List Char → List Lexeme → Option (Command × List Lexeme)
  | 0, _, _ => none
  | fuel + 1, name, ls => do
    let (values, r) :=
      match ls with
      | l :: rest => if l.isMark "in" then readWords rest else ([[.value ['@'] true]], ls)
      | [] => ([], [])
    let r := match r with
      | .operator [';'] :: r => r
      | r => r
    let (body, r) ← readSeq fuel (← expect "do" (skipLines r))
    let r ← expect "done" r
    let (redirects, r) := readRedirects r
    return (.group (.each name values body) redirects, r)

end

/-- The command of a script; none if it cannot be read. -/
def Command.ofText? (cs : List Char) : Option Command := do
  let ls ← lexemes? cs
  let (command, rest) ← readSeq (8 * ls.length + 8) ls
  if rest.isEmpty then some command else none

end MetricsHarness.Script

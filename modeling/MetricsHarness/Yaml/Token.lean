import MetricsHarness.Yaml.Flow
import MetricsHarness.Yaml.Properties

/-!
# Tokens of a YAML text

Blocks are structured by indentation. A column further right than the block around it opens a
block (`openBlock`), a line further left closes blocks (`closeBlocks`); both become tokens.

Whether something is a key shows only at the colon after it. Where a key could begin, the place is
noted (`PossibleKey`), one for each pair of brackets around it; when the colon comes, the tokens of
a key are put in at that place (`insertToken`). A key fits one line and 1024 bytes. Where a line
of a block can only be a key, a missing colon is a fault (`required`).
-/

namespace MetricsHarness.Yaml

/-- How a scalar is written. -/
inductive Style where
  | plain
  | quoted
  | literal
  | folded
  deriving DecidableEq, Repr

/-- What a token is. -/
inductive Lexeme where
  | directive (d : Directive)
  | documentStart
  | documentEnd
  | blockSequence
  | blockMapping
  | blockEnd
  | flowSequence
  | flowSequenceEnd
  | flowMapping
  | flowMappingEnd
  | dash
  | comma
  | key
  | value
  | reference (name : String)
  | anchor (name : String)
  | tag (tag : WrittenTag)
  | scalar (text : String) (style : Style)

/-- A lexeme with the places where it starts and stops. -/
structure Token where
  lexeme : Lexeme
  start : Mark
  stop : Mark

/-- A place where a key could begin. -/
structure PossibleKey where
  required : Bool
  /-- The number of tokens before it. -/
  position : Nat
  mark : Mark

/-- What is known between two tokens. -/
structure Scan where
  /-- Where the text ends. -/
  finish : Mark
  /-- More than the number of spots of the whole text. -/
  room : Nat
  rest : List Spot
  /-- The tokens so far, last first. -/
  tokens : List Token
  /-- The number of tokens so far. -/
  count : Nat
  /-- The columns of the blocks that are open, innermost first. -/
  blocks : List Nat
  /-- The possible key outside of brackets. -/
  key : Option PossibleKey
  /-- The possible keys inside the brackets that are open, innermost first. -/
  flow : List (Option PossibleKey)
  /-- Whether a key may begin here. -/
  keyAllowed : Bool

namespace Scan

/-- The place between two tokens. -/
def mark (s : Scan) : Mark := markAt s.finish s.rest

/-- Whether brackets are open. -/
def inFlow (s : Scan) : Bool := !s.flow.isEmpty

/-- Adds a token that starts here and ends before `rest`. -/
def push (s : Scan) (lexeme : Lexeme) (rest : List Spot) : Scan :=
  { s with
    tokens := ⟨lexeme, s.mark, markAt s.finish rest⟩ :: s.tokens
    count := s.count + 1
    rest := rest }

/-- Adds a token of a number of characters. -/
def pushChars (s : Scan) (lexeme : Lexeme) (width : Nat) : Scan :=
  s.push lexeme (s.rest.drop width)

/-- The possible key of the innermost brackets. -/
def currentKey (s : Scan) : Option PossibleKey :=
  match s.flow with
  | k :: _ => k
  | [] => s.key

/-- Changes the possible key of the innermost brackets. -/
def withKey (s : Scan) (key : Option PossibleKey) : Scan :=
  match s.flow with
  | _ :: outer => { s with flow := key :: outer }
  | [] => { s with key := key }

/-- The fault of a key without its colon. -/
def missingColon {α : Type} (key : PossibleKey) (place : Mark) : Except Fault α :=
  failWhile "while scanning a simple key" key.mark "could not find expected ':'" place

/-- Gives up the possible key. -/
def dropKey (s : Scan) : Except Fault Scan :=
  match s.currentKey with
  | none => .ok s
  | some k => if k.required then missingColon k s.mark else .ok (s.withKey none)

/-- Notes that a key could begin here. -/
def noteKey (s : Scan) : Except Fault Scan :=
  if s.keyAllowed then
    match s.dropKey with
    | .error f => .error f
    | .ok s =>
      let required := !s.inFlow && s.blocks.head? == some s.mark.column
      .ok (s.withKey (some ⟨required, s.count, s.mark⟩))
  else .ok s

/-- Whether a key that began somewhere can still end here. -/
def isFresh (here : Mark) (key : PossibleKey) : Bool :=
  key.mark.line == here.line && here.offset ≤ key.mark.offset + 1024

/-- A possible key, if it is fresh. -/
def freshKey (here : Mark) (key : Option PossibleKey) : Except Fault (Option PossibleKey) :=
  match key with
  | none => .ok none
  | some k =>
    if isFresh here k then .ok (some k)
    else if k.required then missingColon k here
    else .ok none

/-- Gives up the possible keys that have become too long. -/
def dropStale (s : Scan) : Except Fault Scan :=
  match freshKey s.mark s.key, s.flow.mapM (freshKey s.mark) with
  | .ok key, .ok flow => .ok { s with key := key, flow := flow }
  | .error f, _ => .error f
  | _, .error f => .error f

/-- Puts a token behind a number of tokens. -/
def insertToken (s : Scan) (position : Nat) (token : Token) : Scan :=
  let after := s.count - position
  { s with tokens := s.tokens.take after ++ token :: s.tokens.drop after, count := s.count + 1 }

/-- Opens a block at a column, if it is further right than the block around it; the token goes
behind a number of tokens. -/
def openBlock (s : Scan) (lexeme : Lexeme) (mark : Mark) (position : Nat) : Scan :=
  let deeper := match s.blocks with
    | [] => true
    | column :: _ => column < mark.column
  if !s.inFlow && deeper then
    { s.insertToken position ⟨lexeme, mark, mark⟩ with blocks := mark.column :: s.blocks }
  else s

/-- Closes the blocks that are further right than a column; none closes all. -/
def closeBlocks (s : Scan) (column : Option Nat) : Scan :=
  if s.inFlow then s
  else
    let isInside (block : Nat) : Bool := match column with
      | none => true
      | some c => c < block
    let closed := s.blocks.takeWhile isInside
    { s with
      tokens := closed.map (fun _ => ⟨.blockEnd, s.mark, s.mark⟩) ++ s.tokens
      count := s.count + closed.length
      blocks := s.blocks.dropWhile isInside }

/-- Moves past blanks, comments and line ends, with room for a number of steps. After a line end
outside of brackets a key may begin, and where it may, a tab is no blank. A byte order mark at the
beginning of a line is passed too, but it takes up a column. -/
def skipGap : Nat → Scan → Scan
  | 0, s => s
  | fuel + 1, s =>
    let blank (c : Char) : Bool := c == ' ' || ((s.inFlow || !s.keyAllowed) && c == '\t')
    let marked :=
      if s.mark.column = 0 && atChar '\ufeff' s.rest then s.rest.drop 1 else s.rest
    let afterBlanks := marked.dropWhile (blank ·.char)
    let rest :=
      if atChar '#' afterBlanks then afterBlanks.dropWhile (!isBreak ·.char) else afterBlanks
    match rest with
    | [] => { s with rest := [] }
    | e :: next =>
      if isBreak e.char then
        skipGap fuel { s with rest := next, keyAllowed := s.keyAllowed || !s.inFlow }
      else { s with rest := rest }

/-- The token of a line that separates documents or of a directive: nothing stays open. -/
def atMargin (s : Scan) : Except Fault Scan :=
  match (s.closeBlocks none).dropKey with
  | .error f => .error f
  | .ok s => .ok { s with keyAllowed := false }

/-- An opening bracket. -/
def openFlow (s : Scan) (lexeme : Lexeme) : Except Fault Scan := do
  let s ← s.noteKey
  return { s.pushChars lexeme 1 with flow := none :: s.flow, keyAllowed := true }

/-- A closing bracket. -/
def closeFlow (s : Scan) (lexeme : Lexeme) : Except Fault Scan := do
  let s ← s.dropKey
  return { s.pushChars lexeme 1 with flow := s.flow.drop 1, keyAllowed := false }

/-- A comma. -/
def readComma (s : Scan) : Except Fault Scan := do
  let s ← s.dropKey
  return { s.pushChars .comma 1 with keyAllowed := true }

/-- Opens a block at an indicator, which must stand where a key could begin. -/
def openAtIndicator (s : Scan) (lexeme : Lexeme) (problem : String) : Except Fault Scan :=
  if s.inFlow then .ok s
  else if s.keyAllowed then .ok (s.openBlock lexeme s.mark s.count)
  else .error ⟨problem, some s.mark, none⟩

/-- The dash of a sequence. -/
def readDash (s : Scan) : Except Fault Scan := do
  let s ← s.openAtIndicator .blockSequence
    "block sequence entries are not allowed in this context"
  let s ← s.dropKey
  return { s.pushChars .dash 1 with keyAllowed := true }

/-- The question mark of a key. -/
def readKey (s : Scan) : Except Fault Scan := do
  let s ← s.openAtIndicator .blockMapping "mapping keys are not allowed in this context"
  let s ← s.dropKey
  return { s.pushChars .key 1 with keyAllowed := !s.inFlow }

/-- The colon of a value. It makes a key of what began at the possible key. -/
def readValue (s : Scan) : Except Fault Scan :=
  match s.currentKey with
  | some k =>
    let keyed := s.insertToken k.position ⟨.key, k.mark, k.mark⟩
    let opened := (keyed.openBlock .blockMapping k.mark k.position).withKey none
    .ok { opened.pushChars .value 1 with keyAllowed := false }
  | none => do
    let s ← s.openAtIndicator .blockMapping "mapping values are not allowed in this context"
    return { s.pushChars .value 1 with keyAllowed := !s.inFlow }

/-- A node begins: a key may begin here, and behind it none. -/
def beginNode (s : Scan) : Except Fault Scan :=
  match s.noteKey with
  | .error f => .error f
  | .ok s => .ok { s with keyAllowed := false }

/-- A token with a name. -/
def readName (s : Scan) (reading : String) (make : String → Lexeme) : Except Fault Scan := do
  let s ← s.beginNode
  let (name, rest) ← scanName reading s.mark s.finish (s.rest.drop 1)
  return s.push (make name) rest

/-- A tag. -/
def readTag (s : Scan) : Except Fault Scan := do
  let s ← s.beginNode
  let (tag, rest) ← scanTag s.inFlow s.mark s.finish s.rest
  return s.push (.tag tag) rest

/-- A block scalar. -/
def readBlock (s : Scan) (literal : Bool) : Except Fault Scan := do
  let s ← s.dropKey
  let (text, rest) ← scanBlock literal s.mark s.finish s.blocks.head? (s.rest.drop 1)
  let style := if literal then Style.literal else Style.folded
  return { s.push (.scalar (String.ofList text) style) rest with keyAllowed := true }

/-- A quoted scalar. -/
def readQuoted (s : Scan) (double : Bool) : Except Fault Scan := do
  let s ← s.beginNode
  let scanned ← scanQuoted double s.mark s.finish s.room .nothing (s.rest.drop 1)
  return s.push (.scalar (String.ofList scanned.text) .quoted) scanned.rest

/-- A plain scalar. Where it passes a line end, a key may begin behind it. -/
def readPlain (s : Scan) : Except Fault Scan := do
  let s ← s.beginNode
  let indent := match s.blocks with
    | [] => 0
    | column :: _ => column + 1
  let scanned ← scanPlain s.inFlow indent s.mark .nothing s.rest
  return { s.push (.scalar (String.ofList scanned.text) .plain) scanned.rest with
    keyAllowed := scanned.passedLine }

/-- Whether a plain scalar can begin with a character, given what follows it. -/
def beginsPlain (flow : Bool) (c : Char) (rest : List Spot) : Bool :=
  if c == '-' then !(rest.head?.any (isBlank ·.char))
  else if c == '?' || c == ':' then !flow && !atGap rest
  else !isBlank c && !("-?:,[]\x7b\x7d#&*!|>'\"%@\x60".toList.contains c)

/-- Reads the next token at a character, given what follows it. -/
def readAt (s : Scan) (c : Char) (rest : List Spot) : Except Fault Scan :=
  let column := s.mark.column
  if column = 0 && c == '%' then do
    let s ← s.atMargin
    let (d, rest) ← scanDirective s.mark s.finish s.rest
    return s.push (.directive d) rest
  else if atDocumentLine s.rest then do
    let s ← s.atMargin
    return s.pushChars (if c == '-' then .documentStart else .documentEnd) 3
  else if c == '[' then s.openFlow .flowSequence
  else if c == '\x7b' then s.openFlow .flowMapping
  else if c == ']' then s.closeFlow .flowSequenceEnd
  else if c == '\x7d' then s.closeFlow .flowMappingEnd
  else if c == ',' then s.readComma
  else if c == '-' && atGap rest then s.readDash
  else if c == '?' && (s.inFlow || atGap rest) then s.readKey
  else if c == ':' && (s.inFlow || atGap rest) then s.readValue
  else if c == '*' then s.readName "while scanning an alias" .reference
  else if c == '&' then s.readName "while scanning an anchor" .anchor
  else if c == '!' then s.readTag
  else if c == '|' && !s.inFlow then s.readBlock true
  else if c == '>' && !s.inFlow then s.readBlock false
  else if c == '\x27' then s.readQuoted false
  else if c == '"' then s.readQuoted true
  else if beginsPlain s.inFlow c rest then s.readPlain
  else failWhile "while scanning for the next token" s.mark
    "found character that cannot start any token" s.mark

/-- Closes everything at the end of the text, which counts as the beginning of a line. -/
def atEnd (s : Scan) : Except Fault Scan :=
  let finish := if s.finish.column = 0 then s.finish else s.finish.nextLine 0
  (({ s with finish := finish }).closeBlocks none).dropKey

/-- Reads tokens up to the end, with room for a number of tokens. -/
def run : Nat → Scan → Except Fault Scan
  | 0, s => .ok s
  | fuel + 1, s =>
    match (s.skipGap s.room).dropStale with
    | .error f => .error f
    | .ok s =>
      let s := s.closeBlocks (some s.mark.column)
      match s.rest with
      | [] => s.atEnd
      | spot :: rest =>
        match s.readAt spot.char rest with
        | .error f => .error f
        | .ok s => run fuel s

end Scan

/-- A character that a text may hold. -/
def isAllowed (c : Char) : Bool :=
  let n := c.toNat
  n == 0x09 || n == 0x0A || n == 0x0D || (0x20 ≤ n && n ≤ 0x7E) || n == 0x85 ||
    (0xA0 ≤ n && n ≤ 0xD7FF) || (0xE000 ≤ n && n ≤ 0xFFFD) || 0x10000 ≤ n

/-- The tokens of a text, and where it ends. -/
def tokensOf (text : List Char) : Except Fault (List Token × Mark) :=
  if text.any (!isAllowed ·) then .error ⟨"control characters are not allowed", none, none⟩
  else
    let finish := markAfter .origin text
    let spots := spotsFrom .origin text
    let room := spots.length + 1
    match Scan.run room ⟨finish, room, spots, [], 0, [], none, [], true⟩ with
    | .error f => .error f
    | .ok s => .ok (s.tokens.reverse, s.finish)

end MetricsHarness.Yaml

import MetricsHarness.Yaml.Token

/-!
# Nodes of a YAML document

A document is a tree of scalars, sequences and mappings (`Node`), built from the tokens of its
text (`Document.ofText`). Nothing between two commas, or after a key, is an empty plain scalar.

An anchor gives its node a number and an alias keeps the number only, so a document stays a finite
tree whatever its aliases say; `Document.target?` follows one. The number is the count of names
known so far: a name that is given again takes a new number without being counted again, and the
next new name then takes the same number from it. Of the nodes that were given one number it means
the one that begins last.
-/

namespace MetricsHarness.Yaml

/-- A node; the mark is where it starts, its anchor and its tag included. -/
inductive Node where
  | scalar (mark : Mark) (tag : Option Tag) (style : Style) (text : String)
  | sequence (mark : Mark) (tag : Option Tag) (items : List Node)
  | mapping (mark : Mark) (tag : Option Tag) (members : List (Node × Node))
  | reference (mark : Mark) (number : Nat)

/-- The node of nothing. -/
def Node.nothing (mark : Mark) : Node := .scalar mark none .plain ""

/-- What is known while nodes are built. -/
structure Cursor where
  /-- Where the text ends. -/
  finish : Mark
  tokens : List Token
  /-- What the handles of tags stand for. -/
  handles : List (String × Bytes)
  /-- The names given so far with their numbers, the latest first. -/
  names : List (String × Nat)
  /-- How many different names there are among them. -/
  known : Nat
  /-- The nodes that were given a name, each by how many names were given before it. -/
  nodes : List (Nat × Node)

/-- A step that takes tokens from the front. -/
abbrev Build := StateT Cursor (Except Fault)

namespace Build

/-- The next lexeme. -/
def peek : Build (Option Lexeme) := do return (← get).tokens.head?.map (·.lexeme)

/-- Where the next token starts. -/
def here : Build Mark := do
  let c ← get
  return match c.tokens with
    | [] => c.finish
    | t :: _ => t.start

/-- Passes the next token and answers where it stops. -/
def skip : Build Mark := do
  let c ← get
  match c.tokens with
  | [] => return c.finish
  | t :: rest =>
    set { c with tokens := rest }
    return t.stop

/-- Fails at the next token, while reading something that started at a place. -/
def fail {α : Type} (reading : String) (since : Mark) (problem : String) : Build α := do
  let place ← here
  throw ⟨problem, some place, some (reading, since)⟩

/-- Gives a name the next number; answers how many names were given before it. -/
def declare (name : Option String) : Build (Option Nat) := do
  match name with
  | none => return none
  | some n =>
    let c ← get
    let known := if (c.names.lookup n).isSome then c.known else c.known + 1
    set { c with names := (n, c.known) :: c.names, known := known }
    return some c.names.length

/-- Keeps a node that was given a name. -/
def define (place : Option Nat) (node : Node) : Build Node := do
  match place with
  | none => return node
  | some p =>
    modify fun c => { c with nodes := (p, node) :: c.nodes }
    return node

/-- The full tag of a written one. -/
def fullTag (since place : Mark) (tag : WrittenTag) : Build Tag := do
  if tag.handle.isEmpty then return .ofBytes tag.suffix
  else match (← get).handles.lookup tag.handle with
    | some lead => return .ofBytes (lead ++ tag.suffix)
    | none =>
      throw ⟨"found undefined tag handle", some place, some ("while parsing a node", since)⟩

/-- What stands before a node: where it starts, its anchor and its tag. -/
structure Head where
  mark : Mark
  anchor : Option String
  tag : Option Tag

/-- Passes an anchor, if one is next. -/
def takeAnchor : Build (Option String) := do
  match ← peek with
  | some (.anchor name) => do
    let _ ← skip
    return some name
  | _ => return none

/-- Passes a tag, if one is next. -/
def takeTag (since : Mark) : Build (Option Tag) := do
  match ← peek with
  | some (.tag tag) => do
    let place ← here
    let _ ← skip
    return some (← fullTag since place tag)
  | _ => return none

/-- Passes an anchor and a tag in either order. -/
def takeHead : Build Head := do
  let mark ← here
  match ← takeAnchor with
  | some name => return ⟨mark, some name, ← takeTag mark⟩
  | none =>
    match ← takeTag mark with
    | none => return ⟨mark, none, none⟩
    | some tag => return ⟨mark, ← takeAnchor, some tag⟩

/-- Whether the next lexeme leaves an item of a block sequence empty. -/
def endsItem (l : Option Lexeme) : Bool :=
  match l with
  | some .dash | some .blockEnd => true
  | _ => false

/-- Whether the next lexeme leaves an item without its own block empty. -/
def endsLooseItem (l : Option Lexeme) : Bool :=
  match l with
  | some .dash | some .key | some .value | some .blockEnd => true
  | _ => false

/-- Whether the next lexeme leaves a key or a value of a block mapping empty. -/
def endsMember (l : Option Lexeme) : Bool :=
  match l with
  | some .key | some .value | some .blockEnd => true
  | _ => false

/-- Whether the next lexeme is a comma or a closing bracket. -/
def endsFlow (close : Lexeme → Bool) (l : Option Lexeme) : Bool :=
  match l with
  | some .comma => true
  | some l => close l
  | none => false

/-- Whether the next lexeme leaves a key in brackets empty. -/
def endsFlowKey (close : Lexeme → Bool) (l : Option Lexeme) : Bool :=
  match l with
  | some .value => true
  | l => endsFlow close l

/-- The end of a sequence in brackets. -/
def closesSequence : Lexeme → Bool
  | .flowSequenceEnd => true
  | _ => false

/-- The end of a mapping in brackets. -/
def closesMapping : Lexeme → Bool
  | .flowMappingEnd => true
  | _ => false

/-- Passes the comma between two entries in brackets. -/
def passComma (first : Bool) (reading : String) (since : Mark) (problem : String) : Build Unit := do
  if !first then
    match ← peek with
    | some .comma => let _ ← skip
    | _ => fail reading since problem

mutual

/-- Builds a node; one in a block may be a block itself, and a value may be a sequence without a
block of its own. -/
def node : Nat → Bool → Bool → Build Node
  | 0, _, _ => do fail "while parsing a node" (← here) "did not find expected node content"
  | fuel + 1, block, loose => do
    match ← peek with
    | some (.reference name) => do
      let mark ← here
      let _ ← skip
      match (← get).names.lookup name with
      | some number => return .reference mark number
      | none => throw ⟨"unknown anchor", some mark, none⟩
    | _ => do
      let head ← takeHead
      match ← peek, block, loose with
      | some .dash, _, true => do
        let place ← declare head.anchor
        define place (.sequence head.mark head.tag (← looseItems fuel))
      | some (.scalar text style), _, _ => do
        let _ ← skip
        let place ← declare head.anchor
        define place (.scalar head.mark head.tag style text)
      | some .flowSequence, _, _ => do
        let since ← here
        let _ ← skip
        let place ← declare head.anchor
        define place (.sequence head.mark head.tag (← flowItems fuel since true))
      | some .flowMapping, _, _ => do
        let since ← here
        let _ ← skip
        let place ← declare head.anchor
        define place (.mapping head.mark head.tag (← flowMembers fuel since true))
      | some .blockSequence, true, _ => do
        let since ← here
        let _ ← skip
        let place ← declare head.anchor
        define place (.sequence head.mark head.tag (← blockItems fuel since))
      | some .blockMapping, true, _ => do
        let since ← here
        let _ ← skip
        let place ← declare head.anchor
        define place (.mapping head.mark head.tag (← blockMembers fuel since))
      | _, _, _ => do
        if head.anchor.isSome || head.tag.isSome then
          let place ← declare head.anchor
          define place (.scalar head.mark head.tag .plain "")
        else
          fail (if block then "while parsing a block node" else "while parsing a flow node")
            head.mark "did not find expected node content"

/-- Builds the items of a block sequence up to its end. -/
def blockItems : Nat → Mark → Build (List Node)
  | 0, since => fail "while parsing a block collection" since "did not find expected '-' indicator"
  | fuel + 1, since => do
    match ← peek with
    | some .dash => do
      let stop ← skip
      let item ← if endsItem (← peek) then pure (.nothing stop) else node fuel true false
      return item :: (← blockItems fuel since)
    | some .blockEnd => do
      let _ ← skip
      return []
    | _ => fail "while parsing a block collection" since "did not find expected '-' indicator"

/-- Builds the items of a sequence that has no block of its own. -/
def looseItems : Nat → Build (List Node)
  | 0 => return []
  | fuel + 1 => do
    match ← peek with
    | some .dash => do
      let stop ← skip
      let item ← if endsLooseItem (← peek) then pure (.nothing stop) else node fuel true false
      return item :: (← looseItems fuel)
    | _ => return []

/-- Builds the members of a block mapping up to its end. -/
def blockMembers : Nat → Mark → Build (List (Node × Node))
  | 0, since => fail "while parsing a block mapping" since "did not find expected key"
  | fuel + 1, since => do
    match ← peek with
    | some .key => do
      let stop ← skip
      let key ← if endsMember (← peek) then pure (.nothing stop) else node fuel true true
      let value ← blockValue fuel
      return (key, value) :: (← blockMembers fuel since)
    | some .blockEnd => do
      let _ ← skip
      return []
    | _ => fail "while parsing a block mapping" since "did not find expected key"

/-- Builds the value of a member of a block mapping. -/
def blockValue : Nat → Build Node
  | 0 => do return .nothing (← here)
  | fuel + 1 => do
    match ← peek with
    | some .value => do
      let stop ← skip
      if endsMember (← peek) then return .nothing stop else node fuel true true
    | _ => return .nothing (← here)

/-- Builds the items of a sequence in brackets. An item with a key is a mapping of one member. -/
def flowItems : Nat → Mark → Bool → Build (List Node)
  | 0, since, _ => fail "while parsing a flow sequence" since "did not find expected ',' or ']'"
  | fuel + 1, since, first => do
    match ← peek with
    | some .flowSequenceEnd => do
      let _ ← skip
      return []
    | _ => do
      passComma first "while parsing a flow sequence" since "did not find expected ',' or ']'"
      match ← peek with
      | some .flowSequenceEnd => do
        let _ ← skip
        return []
      | some .key => do
        let mark ← here
        let _ ← skip
        let member ← flowPair fuel
        return .mapping mark none [member] :: (← flowItems fuel since false)
      | _ => do
        let item ← node fuel false false
        return item :: (← flowItems fuel since false)

/-- Builds the member of an item with a key. A key that is missing swallows the token after it. -/
def flowPair : Nat → Build (Node × Node)
  | 0 => do return (Node.nothing (← here), Node.nothing (← here))
  | fuel + 1 => do
    let key ←
      if endsFlowKey closesSequence (← peek) then Node.nothing <$> skip else node fuel false false
    let value ← flowValue fuel closesSequence
    return (key, value)

/-- Builds the members of a mapping in brackets. -/
def flowMembers : Nat → Mark → Bool → Build (List (Node × Node))
  | 0, since, _ => fail "while parsing a flow mapping" since "did not find expected ',' or '\x7d'"
  | fuel + 1, since, first => do
    match ← peek with
    | some .flowMappingEnd => do
      let _ ← skip
      return []
    | _ => do
      passComma first "while parsing a flow mapping" since "did not find expected ',' or '\x7d'"
      match ← peek with
      | some .flowMappingEnd => do
        let _ ← skip
        return []
      | some .key => do
        let _ ← skip
        let key ←
          if endsFlowKey closesMapping (← peek) then Node.nothing <$> here
          else node fuel false false
        let value ← flowValue fuel closesMapping
        return (key, value) :: (← flowMembers fuel since false)
      | _ => do
        let key ← node fuel false false
        let value := Node.nothing (← here)
        return (key, value) :: (← flowMembers fuel since false)

/-- Builds the value of a key in brackets. -/
def flowValue : Nat → (Lexeme → Bool) → Build Node
  | 0, _ => do return .nothing (← here)
  | fuel + 1, close => do
    match ← peek with
    | some .value => do
      let _ ← skip
      let next ← peek
      if endsFlow close next then return .nothing (← here) else node fuel false false
    | _ => return .nothing (← here)

end

/-- Passes the directives in front of a document, with room for a number of them. -/
def takeDirectives : Nat → Bool → List (String × Bytes) → Build (List (String × Bytes))
  | 0, _, handles => return handles
  | fuel + 1, versioned, handles => do
    let place ← here
    match ← peek with
    | some (.directive (.version major minor)) => do
      if versioned then throw ⟨"found duplicate %YAML directive", some place, none⟩
      if !(major == 1 && (minor == 1 || minor == 2)) then
        throw ⟨"found incompatible YAML document", some place, none⟩
      let _ ← skip
      takeDirectives fuel true handles
    | some (.directive (.handle handle lead)) => do
      if (handles.lookup handle).isSome then
        throw ⟨"found duplicate %TAG directive", some place, none⟩
      let _ ← skip
      takeDirectives fuel versioned ((handle, lead) :: handles)
    | _ => return handles

/-- What the two short handles stand for, unless a directive says otherwise. -/
def standardHandles : List (String × Bytes) :=
  [("!", Tag.privateLead), ("!!", Tag.standardLead)]

/-- Whether a document without content ends here. -/
def endsDocument (l : Option Lexeme) : Bool :=
  match l with
  | none | some .documentStart | some .documentEnd | some (.directive _) => true
  | _ => false

/-- Passes the lines that end a document, with room for a number of them. -/
def skipEnds : Nat → Build Unit
  | 0 => return ()
  | fuel + 1 => do
    match ← peek with
    | some .documentEnd => do
      let _ ← skip
      skipEnds fuel
    | _ => return ()

/-- Passes the line that starts a document. -/
def passStart : Build Unit := do
  match ← peek with
  | some .documentStart => let _ ← skip
  | _ => throw ⟨"did not find expected <document start>", some (← here), none⟩

/-- Builds the only document of the tokens, if there is one. -/
def document (room : Nat) : Build (Option Node) := do
  match ← peek with
  | none => return none
  | some first => do
    let isExplicit := match first with
      | .documentStart | .directive _ => true
      | _ => false
    let handles ← takeDirectives room false []
    modify fun c => { c with handles := handles ++ standardHandles }
    if isExplicit then passStart
    let next ← peek
    let root ←
      if isExplicit && endsDocument next then pure (.nothing (← here)) else node room true false
    skipEnds room
    if (← peek).isNone then return some root
    else
      let _ ← takeDirectives room false []
      passStart
      throw ⟨"deserializing from YAML containing more than one document is not supported", none,
        none⟩

end Build

mutual

/-- How many events a node consists of: one for a scalar or an alias, and for a sequence or a
mapping its beginning, its end and what is inside. -/
def Node.events : Node → Nat
  | .scalar _ _ _ _ => 1
  | .reference _ _ => 1
  | .sequence _ _ items => 2 + Node.eventsOfItems items
  | .mapping _ _ members => 2 + Node.eventsOfMembers members

/-- How many events items consist of. -/
def Node.eventsOfItems : List Node → Nat
  | [] => 0
  | n :: rest => n.events + Node.eventsOfItems rest

/-- How many events members consist of. -/
def Node.eventsOfMembers : List (Node × Node) → Nat
  | [] => 0
  | (k, v) :: rest => k.events + v.events + Node.eventsOfMembers rest

end

/-- A document: its root, if it has content, the names that were given with their numbers, the
latest first, and the nodes that were given names. -/
structure Document where
  root : Option Node
  names : List (String × Nat)
  nodes : List (Nat × Node)

namespace Document

/-- Reads the only document of a text. -/
def ofText (text : List Char) : Except Fault Document :=
  match tokensOf text with
  | .error f => .error f
  | .ok (tokens, finish) =>
    let room := 4 * tokens.length + 8
    match (Build.document room).run ⟨finish, tokens, [], [], 0, []⟩ with
    | .error f => .error f
    | .ok (root, c) => .ok ⟨root, c.names, c.nodes⟩

/-- The latest place at which a number was given, counting from the first. -/
def placeOf? (number : Nat) : List (String × Nat) → Option Nat
  | [] => none
  | (_, n) :: before => if n = number then some before.length else placeOf? number before

/-- The node of a number. -/
def target? (d : Document) (number : Nat) : Option Node :=
  (placeOf? number d.names).bind fun place => d.nodes.lookup place

/-- How many events a document consists of. -/
def events (d : Document) : Nat :=
  match d.root with
  | none => 1
  | some root => root.events

end Document

end MetricsHarness.Yaml

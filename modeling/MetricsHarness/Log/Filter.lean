import MetricsHarness.Binary64.Reading
import MetricsHarness.Log.Event
import MetricsHarness.Log.Pattern
import MetricsHarness.Text.Blank
import MetricsHarness.Text.Letters
import MetricsHarness.Text.Pieces

/-!
# Log filters

A filter is a list of directives. A directive names the beginning of an origin, a value by its
name, a level, or several of these, as in `origin[{value}]=level`; it lets events of such an
origin that have such a value pass up to that level, or all of them without a level. Of the
directives that fit an event the narrowest counts (`isAsNarrow`), and of those that are equal the
last. An event that no directive fits does not pass.

A directive may also ask for a span or for what a value is. The events of the harness stand in no
span, and only spans are asked for their values, so such a directive lets nothing pass.

The text of a filter has its directives between commas. The marks of a directive are looked for in
its text without the blanks around it, but the parts are cut from the text with them
(`Written`), so that blanks in front shift every part and blanks at the end belong to the last. A
text with a directive that is ill-formed is no filter. Places are counted in bytes; where blanks
outside of ASCII make a part begin or end inside a character, the text cannot be read at all.
-/

namespace MetricsHarness

/-- What a directive lets pass: nothing, or events up to a level. -/
abbrev Filter.Threshold := Option Level

/-- A directive: the beginning of an origin and the name of a value, if it names them, and what may
pass. -/
structure Filter.Directive where
  origin : Option (List Char)
  value : Option (List Char)
  threshold : Filter.Threshold
  deriving DecidableEq

/-- A filter. -/
structure Filter where
  directives : List Filter.Directive
  deriving DecidableEq

namespace Filter

/-- A threshold by its number. -/
def ofNumber? (n : Nat) : Option Threshold :=
  match n with
  | 0 => some none
  | 1 => some (some .error)
  | 2 => some (some .warn)
  | 3 => some (some .info)
  | 4 => some (some .debug)
  | 5 => some (some .trace)
  | _ => none

/-- A threshold by its name, in any letter case. -/
def ofName? (cs : List Char) : Option Threshold :=
  match String.ofList (cs.map Char.toLower) with
  | "error" => some (some .error)
  | "warn" => some (some .warn)
  | "info" => some (some .info)
  | "debug" => some (some .debug)
  | "trace" => some (some .trace)
  | "off" => some none
  | _ => none

/-- A threshold by its number or its name. A number may have a plus sign. -/
def threshold? (cs : List Char) : Option Threshold :=
  let digits := match cs with
    | '+' :: rest => rest
    | cs => cs
  match (Text.value? 10 digits).bind ofNumber? with
  | some t => some t
  | none => ofName? cs

/-- What can be wrong with the text of a filter. -/
inductive Fault where
  | malformed
  /-- A part begins or ends inside a character. -/
  | torn
  deriving DecidableEq

/-- A result, or the fault that there is none. -/
def orMalformed {α : Type} : Option α → Except Fault α
  | some a => .ok a
  | none => .error .malformed

/-- The text of a directive with the blanks around it and without them. -/
structure Written where
  full : Bytes
  inner : Bytes

namespace Written

/-- A text as it is written. -/
def ofChars (cs : List Char) : Written := ⟨Text.Utf8.encode cs, Text.Utf8.encode (Text.trim cs)⟩

/-- Whether a character begins at a place of the full text, or the text ends there. -/
def isBoundary (w : Written) (place : Nat) : Bool := !(w.full[place]?.any Text.Utf8.isTail)

/-- The part of the full text between two places. -/
def part (w : Written) (start stop : Nat) : Except Fault (List Char) :=
  if w.isBoundary start && w.isBoundary stop then
    .ok (Text.Utf8.decodeLossy ((w.full.drop start).take (stop - start)))
  else .error .torn

/-- The part of the full text from a place on. -/
def partFrom (w : Written) (start : Nat) : Except Fault (List Char) := w.part start w.full.length

/-- The first place from `start` on where the inner text has one of the marks, and the mark. -/
def mark? (w : Written) (start : Nat) (marks : List Char) : Option (Nat × Char) :=
  let isMark (b : UInt8) : Bool := marks.contains (Char.ofNat b.toNat)
  let ahead := w.inner.drop start
  match ahead.dropWhile (!isMark ·) with
  | [] => none
  | b :: _ => some (start + (ahead.takeWhile (!isMark ·)).length, Char.ofNat b.toNat)

/-- The character of ASCII at a place of the inner text. -/
def sign? (w : Written) (place : Nat) : Option Char :=
  (w.inner[place]?).map fun b => Char.ofNat b.toNat

/-- The threshold that a text from a place on asks for; an empty one lets everything pass. -/
def thresholdFrom (w : Written) (start : Nat) : Except Fault Threshold := do
  let level ← w.partFrom start
  if level.isEmpty then return some .trace else orMalformed (threshold? level)

/-- The threshold at the end of a directive, behind an equals sign if there is one. -/
def ending (w : Written) (start : Nat) : Except Fault Threshold :=
  match w.sign? start with
  | none => .ok (some .trace)
  | some '=' => w.thresholdFrom (start + 1)
  | some _ => .error .malformed

/-- Whether a text is something to compare a value with: a number or a pattern. -/
def isComparand (cs : List Char) : Bool :=
  (Binary64.read cs).toOption.isSome || Pattern.isPattern cs

/-- What a directive asks of an event between brackets: the name of a value, or more than an event
can meet. -/
inductive Wish where
  | value (name : List Char)
  | unmet

/-- Reads the text between braces: a name, or a name and what its value is compared with. -/
def wish? (cs : List Char) : Option Wish :=
  match Text.pieces '=' cs with
  | [name] => if name.isEmpty then none else some (.value name)
  | _ :: comparand :: _ => if isComparand comparand then some .unmet else none
  | [] => none

/-- Reads what stands in brackets, from behind the opening one, and the place behind the closing
one. A text before the braces is the name of a span. -/
def bracketed (w : Written) (start : Nat) : Except Fault (Wish × Nat) := do
  let (stop, mark) ← orMalformed (w.mark? start [']', '\x7b'])
  let span ← w.part start stop
  if mark == ']' then return (.unmet, stop + 1)
  let (close, _) ← orMalformed (w.mark? (stop + 1) ['\x7d'])
  let wish ← orMalformed (wish? (← w.part (stop + 1) close))
  if w.sign? (close + 1) != some ']' then .error .malformed
  return (if span.isEmpty then wish else .unmet, close + 2)

/-- Reads a directive from behind its opening bracket on; one that no event meets is none. -/
def wishDirective (w : Written) (origin : Option (List Char)) (start : Nat) :
    Except Fault (Option Directive) := do
  let (wish, stop) ← w.bracketed start
  let threshold ← w.ending stop
  match wish with
  | .value name => return some ⟨origin, some name, threshold⟩
  | .unmet => return none

end Written

/-- The directive of a text without brackets and equals sign: a threshold or an origin. -/
def bareDirective (cs : List Char) : Directive :=
  match threshold? cs with
  | some t => ⟨none, none, t⟩
  | none => ⟨some cs, none, some .trace⟩

/-- A character that a directive can begin with, an opening bracket aside. -/
def beginsDirective (c : Char) : Bool :=
  Text.isAlphanumeric c || c == '-' || c == ':' || c == '_'

/-- Reads a directive; one that no event meets is none. -/
def directive (cs : List Char) : Except Fault (Option Directive) :=
  let w := Written.ofChars cs
  match Text.trim cs with
  | [] => .error .malformed
  | '[' :: _ => w.wishDirective none 1
  | c :: _ =>
    if !beginsDirective c then .error .malformed
    else match w.mark? 0 ['=', '['] with
      | none => .ok (some (bareDirective cs))
      | some (stop, mark) => do
        let origin ← w.part 0 stop
        if mark == '[' then w.wishDirective (some origin) (stop + 1)
        else return some ⟨some origin, none, ← w.ending stop⟩

/-- Reads a filter. -/
def ofText (text : String) : Except Fault Filter :=
  (((Text.pieces ',' text.toList).filter (!·.isEmpty)).mapM directive).map fun ds =>
    ⟨ds.filterMap id⟩

/-- Whether a directive fits an event. -/
def fits (e : Event) (d : Directive) : Bool :=
  (match d.origin with
    | none => true
    | some lead => Text.startsWith lead e.origin.name.toList) &&
  (match d.value with
    | none => true
    | some name => e.hasValue (String.ofList name))

/-- How much of an origin a directive names; naming none is less than naming an empty one. -/
def reach (d : Directive) : Nat :=
  match d.origin with
  | none => 0
  | some lead => lead.length + 1

/-- Whether the second of two directives that fit an event is as narrow as the first: it names more
of the origin, or as much of it and a value while the first names none, or a value whose name is
not before that of the first. -/
def isAsNarrow (first second : Directive) : Bool :=
  if reach first = reach second then
    match first.value, second.value with
    | none, _ => true
    | some _, none => false
    | some a, some b => !(b < a)
  else reach first < reach second

/-- The directive that counts for an event. -/
def directiveFor (f : Filter) (e : Event) : Option Directive :=
  (f.directives.filter (fits e)).foldl (fun best d =>
    match best with
    | none => some d
    | some b => if isAsNarrow b d then some d else some b) none

/-- Whether an event passes. -/
def passes (f : Filter) (e : Event) : Bool :=
  match (f.directiveFor e).bind (·.threshold) with
  | some level => e.level.rank ≤ level.rank
  | none => false

/-- The filter without a text for one: events of the harness up to a level, and warnings. -/
def standard (verbose : Bool) : Filter :=
  ⟨[⟨some "metrics_e2e".toList, none, some (if verbose then .debug else .info)⟩,
    ⟨none, none, some .warn⟩]⟩

/-- What is said about a text that cannot be read. -/
def tornText : String := "the text of the log filter is cut inside a character\n"

/-- The filter that a text asks for, if the text can be read; an ill-formed one counts as none. -/
def chosen? (verbose : Bool) (text : Option String) : Option Filter :=
  match text.map ofText with
  | none | some (.error .malformed) => some (standard verbose)
  | some (.error .torn) => none
  | some (.ok filter) => some filter

end Filter

end MetricsHarness

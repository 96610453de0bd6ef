import MetricsHarness.Text.Utf8

/-!
# Tags

A tag says what a node is meant to be. The standard tags of scalars ask for one kind of value. A
tag that begins with a mark is private to the document; its name follows the mark, and one whose
name is no text has no name. Tags are told apart by their bytes, up to the first zero byte.
-/

namespace MetricsHarness.Yaml

/-- What a node is meant to be. -/
inductive Tag where
  | boolean
  | integer
  | real
  | null
  /-- Something of the document's own, by a name. -/
  | named
  /-- Something of the document's own, without a name. -/
  | nameless
  | other
  deriving DecidableEq

namespace Tag

/-- What the standard tags begin with. -/
def standardLead : Bytes := Text.Utf8.encodeString "tag:yaml.org,2002:"

/-- What a private tag begins with. -/
def privateLead : Bytes := [0x21]

/-- The bytes of a part of a tag that count: those before the first zero byte. -/
def counting (bytes : Bytes) : Bytes := bytes.takeWhile (· != 0)

/-- The standard tag of a name. -/
def standard (name : String) : Bytes := standardLead ++ Text.Utf8.encodeString name

/-- The tag of its bytes. -/
def ofBytes (bytes : Bytes) : Tag :=
  if bytes = standard "bool" then .boolean
  else if bytes = standard "int" then .integer
  else if bytes = standard "float" then .real
  else if bytes = standard "null" then .null
  else match bytes with
    | 0x21 :: name => if (Text.Utf8.decode? name).isSome then .named else .nameless
    | _ => .other

end Tag

/-- A tag as it is written: its handle and its suffix. -/
structure WrittenTag where
  handle : String
  suffix : Bytes
  deriving DecidableEq

end MetricsHarness.Yaml

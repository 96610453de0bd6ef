/-!
# Pieces: splitting and joining texts

`pieces sep` cuts a text at every separator. There is always one piece more than there are
separators, so the empty text has one empty piece. `joined` is the other direction.
-/

namespace MetricsHarness.Text

/-- The pieces of a text between separators. -/
def pieces (sep : Char) : List Char → List (List Char)
  | [] => [[]]
  | c :: rest =>
    if c = sep then [] :: pieces sep rest
    else match pieces sep rest with
      | [] => [[c]]
      | head :: tail => (c :: head) :: tail

/-- The pieces with a separator between neighbours. -/
def joined (sep : List Char) : List (List Char) → List Char
  | [] => []
  | [p] => p
  | p :: rest => p ++ sep ++ joined sep rest

/-- What follows a leading text, if the text starts with it. -/
def after? : List Char → List Char → Option (List Char)
  | [], cs => some cs
  | _ :: _, [] => none
  | p :: ps, c :: cs => if p = c then after? ps cs else none

/-- Whether a text starts with another. -/
def startsWith (lead cs : List Char) : Bool := (after? lead cs).isSome

end MetricsHarness.Text

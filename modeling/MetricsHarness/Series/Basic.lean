import MetricsHarness.Sample.Basic

/-!
# Series: the points of one metric

A series has a target (its identity), points in order, and tags. Tags are kept in the order of
their names with one value per name (`Tags`), because that is how they are written and shown;
comparison ignores them.

The step of a series is the distance of its first two timestamps. It is an exact integer: the
distance of two 64-bit counts need not fit 64 bits.
-/

namespace MetricsHarness

/-- Tags by name, in ascending order of the names. -/
structure Tags where
  entries : List (String × String)
  deriving DecidableEq

namespace Tags

/-- No tags. -/
def empty : Tags := ⟨[]⟩

/-- Puts a value under a name in an ordered list; the last value put under a name stays. -/
def insertEntry (name value : String) : List (String × String) → List (String × String)
  | [] => [(name, value)]
  | (n, v) :: rest =>
    if name < n then (name, value) :: (n, v) :: rest
    else if name = n then (name, value) :: rest
    else (n, v) :: insertEntry name value rest

/-- Puts a value under a name. -/
def insert (tags : Tags) (name value : String) : Tags := ⟨insertEntry name value tags.entries⟩

end Tags

/-- The points of one metric. -/
structure Series where
  target : String
  points : List Sample
  tags : Tags
  deriving DecidableEq

/-- The distance of the first two timestamps, if there are two points. -/
def Series.step? (s : Series) : Option Int :=
  match s.points with
  | first :: second :: _ => some (second.timestamp.toInt - first.timestamp.toInt)
  | _ => none

end MetricsHarness

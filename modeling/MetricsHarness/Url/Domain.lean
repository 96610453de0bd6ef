import MetricsHarness.Text.Pieces

/-!
# Domains in ASCII

The name of a host in the schemes of the web is kept in lowercase ASCII. A domain of ASCII
characters is in it once its capitals are gone, unless one of its labels says by its first four
characters that it stands for a name in other letters. What becomes of such a label, and of a domain
with other letters, is left open: a processor of these domains (`Idna`) gives a name or refuses.
What it gives is in lowercase ASCII and stays as it is when it is given again.
-/

namespace MetricsHarness

/-- Whether a character is an ASCII one. -/
def Url.isAscii (c : Char) : Bool := c.toNat < 0x80

/-- A processor of the domains that are not ASCII throughout or stand for one that is not. -/
class Idna where
  /-- The name of a domain in ASCII. -/
  name? : List Char → Option (List Char)
  isLower {domain name : List Char} : name? domain = some name →
    ∀ c ∈ name, Url.isAscii c = true ∧ c.toLower = c
  again {domain name : List Char} : name? domain = some name → name? name = some name

namespace Url

/-- What a label begins with if it stands for a name in other letters. -/
def labelMark : List Char := "xn--".toList

/-- Whether a domain is ASCII and stands for nothing else. -/
def isPlainDomain (domain : List Char) : Bool :=
  domain.all isAscii &&
    (Text.pieces '.' (domain.map Char.toLower)).all fun label => !Text.startsWith labelMark label

/-- The name of a domain in ASCII. -/
def domainName? [Idna] (domain : List Char) : Option (List Char) :=
  if isPlainDomain domain then some (domain.map Char.toLower) else Idna.name? domain

/-- The lowercase of an ASCII character is an ASCII character, and in lowercase. -/
theorem isAscii_toLower {c : Char} (ascii : isAscii c = true) :
    isAscii c.toLower = true ∧ c.toLower.toLower = c.toLower := by
  have all : ∀ n < 0x80, isAscii (Char.ofNat n).toLower = true ∧
      (Char.ofNat n).toLower.toLower = (Char.ofNat n).toLower := by decide
  rw [← Char.ofNat_toNat c]
  exact all c.toNat (of_decide_eq_true ascii)

/-- The characters of an ASCII domain in lowercase. -/
theorem isLower_map_toLower {domain : List Char} (ascii : domain.all isAscii = true) :
    ∀ c ∈ domain.map Char.toLower, isAscii c = true ∧ c.toLower = c := by
  intro c mem
  obtain ⟨d, within, rfl⟩ := List.mem_map.mp mem
  exact isAscii_toLower (List.all_eq_true.mp ascii d within)

/-- A name in lowercase has no capitals to lose. -/
theorem map_toLower_of_lower {name : List Char} (lower : ∀ c ∈ name, c.toLower = c) :
    name.map Char.toLower = name :=
  (List.map_congr_left lower).trans (List.map_id' name)

/-- The name of a domain is in lowercase ASCII. -/
theorem isLower_of_domainName? [Idna] {domain name : List Char}
    (given : domainName? domain = some name) : ∀ c ∈ name, isAscii c = true ∧ c.toLower = c := by
  unfold domainName? at given
  split at given
  · next plain =>
    rw [← Option.some.inj given]
    exact isLower_map_toLower (Bool.and_eq_true_iff.mp plain).1
  · exact Idna.isLower given

/-- The name of a domain is its own name. -/
theorem domainName?_of_domainName? [Idna] {domain name : List Char}
    (given : domainName? domain = some name) : domainName? name = some name := by
  have lower := map_toLower_of_lower fun c mem => (isLower_of_domainName? given c mem).2
  unfold domainName? at given ⊢
  split
  · rw [lower]
  · next other =>
    split at given
    · next plain =>
      -- A plain domain stays plain without its capitals.
      obtain ⟨ascii, labels⟩ := Bool.and_eq_true_iff.mp plain
      have same := Option.some.inj given
      refine absurd (Bool.and_eq_true_iff.mpr ⟨?_, ?_⟩) other
      · rw [← same]
        exact List.all_eq_true.mpr fun c mem => (isLower_map_toLower ascii c mem).1
      · rwa [lower, ← same]
    · exact Idna.again given

end Url

end MetricsHarness

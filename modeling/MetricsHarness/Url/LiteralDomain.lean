import MetricsHarness.Url.Domain

/-!
# Domains taken at their word

The simplest processor of domains: what is ASCII is put into lowercase, whatever its labels say that
they stand for, and what is not ASCII is refused.
-/

namespace MetricsHarness.LiteralDomain

open Url

/-- Every label is taken at its word. -/
scoped instance idna : Idna where
  name? domain := if domain.all isAscii then some (domain.map Char.toLower) else none
  isLower := by
    intro domain name given
    split at given
    · next ascii =>
      rw [← Option.some.inj given]
      exact isLower_map_toLower ascii
    · cases given
  again := by
    intro domain name given
    split at given
    · next ascii =>
      have lower := isLower_map_toLower ascii
      rw [← Option.some.inj given, if_pos (List.all_eq_true.mpr fun c mem => (lower c mem).1),
        map_toLower_of_lower fun c mem => (lower c mem).2]
    · cases given

end MetricsHarness.LiteralDomain

/-!
# Ranges of code points

A class of characters given as a table of code point ranges, as the character
database lists its properties.
-/
namespace ServerLaunch.Text

/-- A table of ranges of code points, both ends included. -/
abbrev CodeRanges := List (Nat × Nat)

/-- Whether a character lies in one of the ranges of a table. -/
def CodeRanges.holds (table : CodeRanges) (c : Char) : Bool :=
  table.any fun range => range.1 ≤ c.toNat && c.toNat ≤ range.2

end ServerLaunch.Text

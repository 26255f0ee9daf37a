/-!
# Text — classes of characters given by ranges

A property of the Unicode character database is written as the list of
the code point ranges that have it, both ends included. The database
grows from version to version, so each module with a table says which
version it follows. Each class decides the ASCII characters by a rule of
its own and asks its table for the others.
-/

namespace Treedown

/-- The code points from the first number to the second, both included. -/
abbrev CodeRange := Nat × Nat

/-- Whether a character's code point lies in one of the ranges. -/
def inRanges (ranges : List CodeRange) (c : Char) : Bool :=
  ranges.any fun r => r.1 ≤ c.toNat && c.toNat ≤ r.2

end Treedown

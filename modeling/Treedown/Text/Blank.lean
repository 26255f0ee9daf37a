/-!
# Text — white space

White space is the Unicode property `White_Space`, and every rule that
trims, splits at blanks or asks whether a line is blank means this one
class. It is wider than the ASCII blanks (no-break, ideographic and
line-separator spaces are in it) and it leaves the zero-width characters
out.
-/

namespace Treedown

/-- **White space.** A character of the Unicode property `White_Space`,
which is closed and has not changed since it was last revised, so the
list is written out. -/
def isBlank (c : Char) : Bool :=
  let n := c.toNat
  n == 0x20 || (0x09 ≤ n && n ≤ 0x0D) || n == 0x85 || n == 0xA0 || n == 0x1680 ||
    (0x2000 ≤ n && n ≤ 0x200A) || n == 0x2028 || n == 0x2029 || n == 0x202F ||
    n == 0x205F || n == 0x3000

end Treedown

import Treedown.Text.Basic
/-!
# Text — UTF-8

Bytes read as UTF-8 (`ofUtf8?`). The first byte of a character says how
many bytes follow and, so that every character has one spelling and no
half of a surrogate pair has any, between which bounds the next one lies.
Bytes are a text only if they are characters from the first to the last.
-/

namespace Treedown

namespace Text

/-- What a first byte announces: how many bytes follow, the bounds of the
next one, and the bits that it brings. -/
structure Lead where
  following : Nat
  low : UInt8
  high : UInt8
  bits : Nat

/-- The announcement of a first byte, if it may be one. -/
def lead? (b : UInt8) : Option Lead :=
  if b < 0x80 then some ⟨0, 0x80, 0xBF, b.toNat⟩
  else if b < 0xC2 then none
  else if b < 0xE0 then some ⟨1, 0x80, 0xBF, b.toNat - 0xC0⟩
  else if b = 0xE0 then some ⟨2, 0xA0, 0xBF, 0⟩
  else if b = 0xED then some ⟨2, 0x80, 0x9F, 0xD⟩
  else if b < 0xF0 then some ⟨2, 0x80, 0xBF, b.toNat - 0xE0⟩
  else if b = 0xF0 then some ⟨3, 0x90, 0xBF, 0⟩
  else if b < 0xF4 then some ⟨3, 0x80, 0xBF, b.toNat - 0xF0⟩
  else if b = 0xF4 then some ⟨3, 0x80, 0x8F, 4⟩
  else none

/-- The character whose first byte has been read, and the bytes behind
it. -/
def complete? : Nat → UInt8 → UInt8 → Nat → List UInt8 → Option (Char × List UInt8)
  | 0, _, _, bits, rest => some (Char.ofNat bits, rest)
  | _ + 1, _, _, _, [] => none
  | n + 1, low, high, bits, b :: rest =>
    if low ≤ b ∧ b ≤ high then complete? n 0x80 0xBF (bits * 64 + b.toNat % 64) rest else none

theorem length_of_complete? {n : Nat} {low high : UInt8} {bits : Nat} {rest after : List UInt8}
    {c : Char} (h : complete? n low high bits rest = some (c, after)) :
    after.length ≤ rest.length := by
  fun_induction complete? n low high bits rest with
  | case1 =>
    cases h
    exact Nat.le_refl _
  | case2 => cases h
  | case3 n low high bits b rest _ ih => exact Nat.le_trans (ih h) (Nat.le_succ _)
  | case4 => cases h

/-- The character that bytes start with, and the bytes behind it. -/
def firstOfUtf8? (b : UInt8) (rest : List UInt8) : Option (Char × List UInt8) :=
  (lead? b).bind fun l => complete? l.following l.low l.high l.bits rest

theorem length_of_firstOfUtf8? {b : UInt8} {rest after : List UInt8} {c : Char}
    (h : firstOfUtf8? b rest = some (c, after)) : after.length ≤ rest.length := by
  obtain ⟨l, -, h⟩ := Option.bind_eq_some_iff.1 h
  exact length_of_complete? h

/-- **The text of bytes**, if they are one. -/
def ofUtf8? : List UInt8 → Option Text
  | [] => some []
  | b :: rest =>
    match _h : firstOfUtf8? b rest with
    | some (c, after) => (ofUtf8? after).map (c :: ·)
    | none => none
termination_by bytes => bytes.length
decreasing_by exact Nat.lt_succ_of_le (length_of_firstOfUtf8? _h)

end Text

end Treedown

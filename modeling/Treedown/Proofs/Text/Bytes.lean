import Mathlib.Tactic.SplitIfs
import Treedown.Text.Basic
/-!
# Text — the order of bytes

Texts are compared character by character. Written as UTF-8 and compared byte
by byte they stand in the same order (`utf8_lt_iff`), as the first byte of a
character grows with the number of its bytes, and the bytes of two characters
of one length are their digits.
-/

namespace Treedown

namespace Text

/-- The bytes of a text. -/
def utf8 (t : Text) : List UInt8 :=
  t.flatMap String.utf8EncodeChar

theorem utf8_cons (c : Char) (t : Text) : utf8 (c :: t) = String.utf8EncodeChar c ++ utf8 t :=
  List.flatMap_cons

theorem ofNat_cons_lt {x y : Nat} (hx : x < 256) (hy : y < 256) {bytes more : List UInt8} :
    UInt8.ofNat x :: bytes < UInt8.ofNat y :: more ↔ x < y ∨ x = y ∧ bytes < more := by
  rw [List.cons_lt_cons_iff, UInt8.lt_iff_toNat_lt, ← UInt8.toNat_inj,
    UInt8.toNat_ofNat_of_lt' hx, UInt8.toNat_ofNat_of_lt' hy]

/-- **The lesser character has the lesser bytes**, whatever follows. -/
theorem utf8EncodeChar_append_lt {c d : Char} (h : c < d) (bytes more : List UInt8) :
    String.utf8EncodeChar c ++ bytes < String.utf8EncodeChar d ++ more := by
  have hlt : c.val.toNat < d.val.toNat := h
  have hbound : d.val.toNat < 0x110000 := by
    rcases d.valid with hd | ⟨-, hd⟩ <;> omega
  simp only [String.utf8EncodeChar]
  generalize c.val.toNat = v at *
  generalize d.val.toNat = w at *
  -- the digits of the two numbers, the first of which needs no remainder
  have hv : v / 4096 = v / 64 / 64 := by omega
  have hw : w / 4096 = w / 64 / 64 := by omega
  have hv' : v / 262144 % 8 = v / 64 / 64 / 64 := by omega
  have hw' : w / 262144 % 8 = w / 64 / 64 / 64 := by omega
  rw [hv, hw, hv', hw']
  split_ifs <;>
    simp (disch := omega) only [List.cons_append, List.nil_append, ofNat_cons_lt] <;> omega

theorem utf8_lt_of_lt {a b : Text} (h : a < b) : utf8 a < utf8 b := by
  induction a generalizing b with
  | nil =>
    cases b with
    | nil => exact absurd h (List.not_lt_nil [])
    | cons d t =>
      rw [utf8_cons]
      cases hd : String.utf8EncodeChar d with
      | nil => exact absurd hd String.utf8EncodeChar_ne_nil
      | cons byte bytes => exact List.nil_lt_cons byte _
  | cons c s ih =>
    cases b with
    | nil => exact absurd h (List.not_lt_nil _)
    | cons d t =>
      rw [utf8_cons, utf8_cons]
      rcases List.cons_lt_cons_iff.1 h with hlt | ⟨rfl, hlt⟩
      · exact utf8EncodeChar_append_lt hlt _ _
      · exact List.append_left_lt (ih hlt)

/-- **Texts are in the order of their bytes.** -/
theorem utf8_lt_iff {a b : Text} : utf8 a < utf8 b ↔ a < b := by
  refine ⟨fun h => List.not_le.1 fun hle => ?_, utf8_lt_of_lt⟩
  rcases List.le_iff_lt_or_eq.1 hle with hlt | rfl
  · exact List.lt_asymm h (utf8_lt_of_lt hlt)
  · exact List.lt_irrefl _ h

end Text

end Treedown

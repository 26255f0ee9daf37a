import Treedown.Json.Token
import Treedown.Json.Value
import Mathlib.Data.List.Basic
/-!
# JSON — literals are read as they are printed

A string is printed with an escape for each character that needs one, and
its pieces are read back to the characters that they came from
(`stringToken_print`). A whole number below `2 ^ 64` is printed in decimal
digits, and the digits are read back to that number, provided that what
follows does not continue it (`numberToken_print`).
-/

namespace Treedown.Json

/-! ## Strings -/

/-- The characters with an escape of their own. -/
def shortEscapes : List Char :=
  ['"', '\\', '\x08', '\x0c', '\n', '\r', '\t']

/-- The piece that a printed character is read as. -/
def pieceOf (c : Char) : Piece :=
  if c.toNat < 0x20 ∧ c ∉ shortEscapes then .code c.toNat else .char c

theorem escape_of_mem {c : Char} (h : c ∈ shortEscapes) :
    ∃ e, escape c = ['\\', e] ∧ e ≠ 'u' ∧ escaped e = some c := by
  simp only [shortEscapes, List.mem_cons, List.not_mem_nil, or_false] at h
  rcases h with rfl | rfl | rfl | rfl | rfl | rfl | rfl
  all_goals exact ⟨_, rfl, by decide, rfl⟩

/-- Any other control character is written by four hexadecimal digits. -/
theorem escape_of_control {c : Char} (hc : c.toNat < 0x20) (h : c ∉ shortEscapes) :
    ∃ a b d e, escape c = ['\\', 'u', a, b, d, e] ∧ hexNumber [a, b, d, e] = some c.toNat := by
  have hall : ∀ n < 0x20, Char.ofNat n ∉ shortEscapes →
      escape (Char.ofNat n) =
          ['\\', 'u', '0', '0', if n < 16 then '0' else '1', Nat.digitChar (n % 16)] ∧
        hexNumber ['0', '0', if n < 16 then '0' else '1', Nat.digitChar (n % 16)] = some n := by
    decide
  have hthis := hall c.toNat hc
  rw [Char.ofNat_toNat] at hthis
  exact ⟨_, _, _, _, hthis h⟩

/-- Every other character stands for itself. -/
theorem escape_of_plain {c : Char} (hc : ¬ c.toNat < 0x20) (h : c ∉ shortEscapes) :
    escape c = [c] := by
  simp only [shortEscapes, List.mem_cons, List.not_mem_nil, or_false, not_or] at h
  obtain ⟨h1, h2, h3, h4, h5, h6, h7⟩ := h
  rw [escape, if_neg h1, if_neg h2, if_neg h3, if_neg h4, if_neg h5, if_neg h6, if_neg h7, if_neg hc]

theorem scanString_short {c e : Char} (t : List Char) (he : e ≠ 'u') (h : escaped e = some c) :
    scanString ('\\' :: e :: t) = (.char c :: (scanString t).1, (scanString t).2) := by
  rw [scanString.eq_def]
  split
  case h_6 hnot heq =>
    obtain ⟨rfl, rfl⟩ := List.cons.inj heq
    exact absurd rfl (hnot e t rfl)
  all_goals simp_all

theorem scanString_plain {c : Char} (t : List Char) (hc : ¬ c.toNat < 0x20)
    (h : c ∉ shortEscapes) :
    scanString (c :: t) = (.char c :: (scanString t).1, (scanString t).2) := by
  simp only [shortEscapes, List.mem_cons, not_or] at h
  rw [scanString.eq_def]
  split <;> simp_all

/-- **A printed character is read as its piece.** -/
theorem scanString_escape (c : Char) (t : List Char) :
    scanString (escape c ++ t) = (pieceOf c :: (scanString t).1, (scanString t).2) := by
  rw [pieceOf]
  by_cases hshort : c ∈ shortEscapes
  · obtain ⟨e, hescape, he, hc⟩ := escape_of_mem hshort
    rw [if_neg fun h => h.2 hshort, hescape]
    exact scanString_short t he hc
  by_cases hcontrol : c.toNat < 0x20
  · obtain ⟨a, b, d, e, hescape, hhex⟩ := escape_of_control hcontrol hshort
    rw [if_pos ⟨hcontrol, hshort⟩, hescape]
    simp only [List.cons_append, List.nil_append]
    rw [scanString, hhex]
  · rw [if_neg fun h => hcontrol h.1, escape_of_plain hcontrol hshort]
    exact scanString_plain t hcontrol hshort

/-- A printed string is read up to its closing quote. -/
theorem scanString_flatMap_escape (s : Text) (rest : List Char) :
    scanString (s.flatMap escape ++ '"' :: rest) = (s.map pieceOf, .ok rest) := by
  induction s with
  | nil => rw [List.flatMap_nil, List.nil_append, scanString, List.map_nil]
  | cons c s ih => rw [List.flatMap_cons, List.append_assoc, scanString_escape, ih, List.map_cons]

/-- **The pieces of a printed string stand for it.** -/
theorem textOf_map_pieceOf (s : Text) : textOf none (s.map pieceOf) = .ok s := by
  induction s with
  | nil => rfl
  | cons c s ih =>
    rw [List.map_cons, pieceOf]
    split
    · rename_i h
      have hends : endsPair c.toNat = false := by
        rw [endsPair, Bool.and_eq_false_iff, decide_eq_false_iff_not]
        omega
      have hleads : leadsPair c.toNat = false := by
        rw [leadsPair, Bool.and_eq_false_iff, decide_eq_false_iff_not]
        omega
      simp only [textOf.eq_def none (.code c.toNat :: _), hends, hleads, ih, Char.ofNat_toNat]
      rfl
    · rw [textOf, ih]
      rfl

/-- **A string is read as it was printed.** -/
theorem stringToken_print (s : Text) (rest : List Char) :
    stringToken (s.flatMap escape ++ '"' :: rest) = (.string (.ok s), rest) := by
  rw [stringToken, scanString_flatMap_escape]
  simp only
  rw [textOf_map_pieceOf]

/-! ## Whole numbers -/

/-- What may follow a number without continuing it. -/
def EndsNumber (rest : List Char) : Prop :=
  ∀ c ∈ rest.head?, c.isDigit = false ∧ c ≠ '.' ∧ c ≠ 'e' ∧ c ≠ 'E'

theorem isDigit_of_mem_ofNat {n : Nat} {c : Char} (h : c ∈ Text.ofNat n) : c.isDigit = true :=
  Nat.isDigit_of_mem_toDigits (by decide) (by decide) h

theorem head?_ofNat_ne_zero {n : Nat} (h : 0 < n) : (Text.ofNat n).head? ≠ some '0' := by
  induction n using Nat.strongRecOn with
  | ind n ih =>
    rw [Text.ofNat, Nat.toDigits_eq_if (by decide)]
    split
    · simp
      omega
    · rename_i hge
      have hdiv : 0 < n / 10 := by omega
      rw [List.head?_append_of_ne_nil _ Nat.toDigits_ne_nil]
      exact ih (n / 10) (by omega) hdiv

/-- Digits are read up to where no digit follows. -/
theorem scanDigits_append {digits rest : List Char} (hne : digits ≠ [])
    (hdigits : ∀ c ∈ digits, c.isDigit = true) (hrest : ∀ c ∈ rest.head?, c.isDigit = false) :
    scanDigits (digits ++ rest) = .ok (digits, rest) := by
  have htake : rest.takeWhile Char.isDigit = [] := by
    cases rest with
    | nil => rfl
    | cons c rest => exact List.takeWhile_cons_of_neg (by simp [hrest c rfl])
  have hdrop : rest.dropWhile Char.isDigit = rest := by
    cases rest with
    | nil => rfl
    | cons c rest => exact List.dropWhile_cons_of_neg (by simp [hrest c rfl])
  rw [scanDigits, List.takeWhile_append_of_pos hdigits, htake, List.append_nil,
    List.dropWhile_append_of_pos hdigits, hdrop]
  cases digits with
  | nil => exact absurd rfl hne
  | cons c digits => rfl

theorem takeMinus_of_ne {s : List Char} (h : ∀ c ∈ s.head?, c ≠ '-') :
    takeMinus s = (false, s) := by
  rw [takeMinus.eq_def]
  split
  · exact absurd rfl (h '-' rfl)
  · rfl

theorem scanFraction_of_endsNumber {rest : List Char} (h : EndsNumber rest) :
    scanFraction rest = .ok ([], rest) := by
  rw [scanFraction.eq_def]
  split
  · exact absurd rfl (h '.' rfl).2.1
  · rfl

theorem scanExponent_of_endsNumber {rest : List Char} (h : EndsNumber rest) :
    scanExponent rest = .ok (none, rest) := by
  cases rest with
  | nil => rfl
  | cons c rest =>
    obtain ⟨-, -, he, hE⟩ := h c rfl
    rw [scanExponent, if_neg (not_or.2 ⟨he, hE⟩)]

/-- The digits of a number are read as a numeral. -/
theorem scanNumber_ofNat (n : Nat) {rest : List Char} (h : EndsNumber rest) :
    scanNumber (Text.ofNat n ++ rest) = .ok (⟨false, Text.ofNat n, [], none⟩, rest) := by
  have hne : Text.ofNat n ≠ [] := Nat.toDigits_ne_nil
  have hminus : takeMinus (Text.ofNat n ++ rest) = (false, Text.ofNat n ++ rest) := by
    refine takeMinus_of_ne fun c hc => ?_
    rw [List.head?_append_of_ne_nil _ hne] at hc
    rintro rfl
    exact absurd (isDigit_of_mem_ofNat (List.mem_of_mem_head? hc)) (by decide)
  have hdigits : scanDigits (Text.ofNat n ++ rest) = .ok (Text.ofNat n, rest) :=
    scanDigits_append hne (fun _ => isDigit_of_mem_ofNat) fun c hc => (h c hc).1
  have hzero : ¬ ((Text.ofNat n).head? = some '0' ∧ (Text.ofNat n).length ≠ 1) := by
    rintro ⟨hhead, hlength⟩
    rcases Nat.eq_zero_or_pos n with rfl | hpos
    · exact hlength rfl
    · exact head?_ofNat_ne_zero hpos hhead
  rw [scanNumber, hminus]
  simp only [hdigits]
  rw [if_neg hzero, scanFraction_of_endsNumber h]
  simp only [scanExponent_of_endsNumber h]

/-- Digits are taken as long as their number fits. -/
theorem takeSignificand_eq (digits : List Char) (n : Nat)
    (h : Nat.ofDigitChars 10 digits n < wordBound) :
    takeSignificand n digits = (Nat.ofDigitChars 10 digits n, []) := by
  induction digits generalizing n with
  | nil => rw [takeSignificand, Nat.ofDigitChars_nil]
  | cons c rest ih =>
    have hcons : Nat.ofDigitChars 10 (c :: rest) n =
        Nat.ofDigitChars 10 rest (10 * n + (c.toNat - 48)) := Nat.ofDigitChars_cons
    rw [hcons] at h ⊢
    have hle : 10 * n + (c.toNat - 48) ≤ Nat.ofDigitChars 10 rest (10 * n + (c.toNat - 48)) := by
      rw [Nat.ofDigitChars_eq_ofDigitChars_zero]
      have hpow : 0 < 10 ^ rest.length := Nat.pow_pos (by decide)
      exact Nat.le_trans (Nat.le_mul_of_pos_left _ hpow) (Nat.le_add_right _ _)
    rw [takeSignificand, if_pos (Nat.lt_of_le_of_lt hle h), ih _ h]

/-- **A whole number of 64 bits is read as it was printed.** -/
theorem numberToken_print {n : Nat} (hn : n < wordBound) {rest : List Char} (h : EndsNumber rest) :
    numberToken (Text.ofNat n ++ rest) = (.number (.ok (.natural n)), rest) := by
  have hvalue : Nat.ofDigitChars 10 (Text.ofNat n) 0 = n := Nat.ofDigitChars_ten_toDigits
  have htake : takeSignificand 0 (Text.ofNat n) = (n, []) := by
    rw [takeSignificand_eq _ _ (by rwa [hvalue]), hvalue]
  rw [numberToken, scanNumber_ofNat n h]
  simp only [Numeral.value, htake]
  rfl

end Treedown.Json

import Treedown.Decimal.Binary
import Treedown.Text.Basic
/-!
# JSON — strings, numbers and words

How the literals of a JSON text are spelled and what they stand for. A
reader of JSON does one of two things with a literal: it wants the value,
or it passes over it, as it does with the value of a member that nobody
asked for. Passing over is more lenient: half of a surrogate pair and a
number beyond every range are let through, and a number that is cut off
by the end of the text counts as misspelled. So a flaw is recorded for
either use (`Halt`), and a literal can be unfit for the first use only.

`scanString` and `scanNumber` read from the front of the text and return
what follows; `length_of_scanString` and `length_of_scanNumber` say that
they do not read past the end.
-/

namespace Treedown.Json

/-! ## Flaws -/

/-- **Why a text is not JSON.** -/
inductive Flaw
  /-- A character stands where the grammar has no place for it. -/
  | malformed
  /-- The text ended too early. -/
  | truncated
  deriving DecidableEq, Repr

/-- The flaw that a reader meets who wants the value, and the flaw that a
reader meets who passes over it. -/
structure Halt where
  wanted : Flaw
  skipped : Flaw
  deriving DecidableEq, Repr

/-- A flaw of the grammar, met by every reader. -/
def Halt.both (f : Flaw) : Halt := ⟨f, f⟩

/-! ## Strings -/

/-- A piece of a string: a character that stands for itself or has an
escape of its own, or a 16-bit code written in four hexadecimal digits. -/
inductive Piece
  | char (c : Char)
  | code (n : Nat)
  deriving DecidableEq, Repr

/-- The character of a one-letter escape. -/
def escaped (c : Char) : Option Char :=
  [('"', '"'), ('\\', '\\'), ('/', '/'), ('b', '\x08'), ('f', '\x0c'), ('n', '\n'), ('r', '\r'),
    ('t', '\t')].lookup c

/-- The value of a hexadecimal digit. -/
def hexDigit (c : Char) : Option Nat :=
  if c.isDigit then some (c.toNat - 48)
  else if 'a' ≤ c ∧ c ≤ 'f' then some (c.toNat - 87)
  else if 'A' ≤ c ∧ c ≤ 'F' then some (c.toNat - 55)
  else none

/-- The number written by hexadecimal digits. -/
def hexNumber (digits : List Char) : Option Nat :=
  digits.foldlM (fun n c => (hexDigit c).map (16 * n + ·)) 0

/-- The flaw of a code with fewer than four characters left: a reader
takes four bytes, so wide characters make it malformed. -/
def shortCode (rest : List Char) : Flaw :=
  if rest.foldl (fun n c => n + c.utf8Size) 0 < 4 then .truncated else .malformed

/-- The pieces of a string up to its closing quote and the text after the
quote, or the flaw before it. The opening quote has been read. -/
def scanString : List Char → List Piece × Except Flaw (List Char)
  | [] => ([], .error .truncated)
  | '"' :: rest => ([], .ok rest)
  | ['\\'] => ([], .error .truncated)
  | '\\' :: 'u' :: a :: b :: c :: d :: rest =>
    match hexNumber [a, b, c, d] with
    | some n =>
      let (pieces, stop) := scanString rest
      (.code n :: pieces, stop)
    | none => ([], .error .malformed)
  | '\\' :: e :: rest =>
    if e = 'u' then ([], .error (shortCode rest))
    else match escaped e with
      | some c =>
        let (pieces, stop) := scanString rest
        (.char c :: pieces, stop)
      | none => ([], .error .malformed)
  | c :: rest =>
    if c.toNat < 0x20 then ([], .error .malformed)
    else
      let (pieces, stop) := scanString rest
      (.char c :: pieces, stop)

/-- Whether a code is the first half of a surrogate pair. -/
def leadsPair (n : Nat) : Bool := 0xD800 ≤ n && n ≤ 0xDBFF

/-- Whether a code is the second half of a surrogate pair. -/
def endsPair (n : Nat) : Bool := 0xDC00 ≤ n && n ≤ 0xDFFF

/-- The character of a surrogate pair. -/
def pairChar (first second : Nat) : Char :=
  Char.ofNat (0x10000 + (first - 0xD800) * 0x400 + (second - 0xDC00))

/-- The text that the pieces of a string stand for. A half of a surrogate
pair alone stands for nothing, and the flaw that cut the pieces off, if
any, comes after all of them. -/
def textOf (stop : Option Flaw) : List Piece → Except Flaw Text
  | [] =>
    match stop with
    | none => .ok []
    | some f => .error f
  | .char c :: rest => (textOf stop rest).map (c :: ·)
  | .code n :: rest =>
    if endsPair n then .error .malformed
    else if leadsPair n then
      match rest with
      | [] => .error (stop.getD .malformed)
      | .code m :: rest =>
        if endsPair m then (textOf stop rest).map (pairChar n m :: ·) else .error .malformed
      | .char _ :: _ => .error .malformed
    else (textOf stop rest).map (Char.ofNat n :: ·)

theorem length_of_scanString {s rest : List Char} (h : (scanString s).2 = .ok rest) :
    rest.length < s.length := by
  fun_induction scanString s <;> simp_all <;> omega

/-! ## Numbers -/

/-- What every whole number of 64 bits is below. -/
def wordBound : Nat := Nat.pow 2 64

/-- **A number of JSON.** Whole numbers that fit 64 bits are kept exact;
every other number, and a zero with a sign, is a binary one. -/
inductive Number
  /-- A whole number below `2 ^ 64`. -/
  | natural (n : Nat)
  /-- The number `-n`, for `n` from one to `2 ^ 63`. -/
  | negative (n : Nat)
  | float (x : Binary)
  deriving DecidableEq, Repr

/-- A number as it is spelled. -/
structure Numeral where
  negative : Bool
  whole : List Char
  fraction : List Char
  exponent : Option Int
  deriving DecidableEq, Repr

/-- The number written by decimal digits. -/
def digitsNumber (digits : List Char) : Nat :=
  digits.foldl (fun n c => 10 * n + (c.toNat - 48)) 0

/-- The flaw of a number that stops before `rest`. -/
def cutNumber (rest : List Char) : Halt :=
  if rest.isEmpty then ⟨.truncated, .malformed⟩ else .both .malformed

/-- At least one digit, and what follows the digits. -/
def scanDigits (s : List Char) : Except Halt (List Char × List Char) :=
  let rest := s.dropWhile Char.isDigit
  match s.takeWhile Char.isDigit with
  | [] => .error (cutNumber rest)
  | digits => .ok (digits, rest)

/-- The fraction of a number, if there is one. -/
def scanFraction : List Char → Except Halt (List Char × List Char)
  | '.' :: rest => scanDigits rest
  | rest => .ok ([], rest)

/-- A minus in front, if there is one. -/
def takeMinus : List Char → Bool × List Char
  | '-' :: rest => (true, rest)
  | rest => (false, rest)

/-- Whether a minus stands in front, and the text after a sign. -/
def takeSign : List Char → Bool × List Char
  | '+' :: rest => (false, rest)
  | rest => takeMinus rest

/-- The exponent of a number, if there is one. -/
def scanExponent : List Char → Except Halt (Option Int × List Char)
  | [] => .ok (none, [])
  | e :: rest =>
    if e = 'e' ∨ e = 'E' then
      match scanDigits (takeSign rest).2 with
      | .error halt => .error halt
      | .ok (digits, after) =>
        let n : Int := digitsNumber digits
        .ok (some (if (takeSign rest).1 then -n else n), after)
    else .ok (none, e :: rest)

/-- A number at the front of a text, and what follows it. A zero is
followed by no further digit of the whole part. -/
def scanNumber (s : List Char) : Except Halt (Numeral × List Char) :=
  match scanDigits (takeMinus s).2 with
  | .error halt => .error halt
  | .ok (whole, s₁) =>
    if whole.head? = some '0' ∧ whole.length ≠ 1 then .error (.both .malformed)
    else match scanFraction s₁ with
      | .error halt => .error halt
      | .ok (fraction, s₂) =>
        match scanExponent s₂ with
        | .error halt => .error halt
        | .ok (exponent, s₃) => .ok (⟨(takeMinus s).1, whole, fraction, exponent⟩, s₃)

theorem length_of_scanDigits {s digits rest : List Char}
    (h : scanDigits s = .ok (digits, rest)) : rest.length < s.length := by
  unfold scanDigits at h
  split at h
  · cases h
  · rename_i heq
    cases h
    have happ := congrArg List.length (List.takeWhile_append_dropWhile (p := Char.isDigit) (l := s))
    rw [List.length_append] at happ
    have hpos : 0 < (s.takeWhile Char.isDigit).length := by
      rcases hs : s.takeWhile Char.isDigit with _ | ⟨c, cs⟩
      · simp_all
      · simp
    omega

theorem length_of_scanFraction {s digits rest : List Char}
    (h : scanFraction s = .ok (digits, rest)) : rest.length ≤ s.length := by
  unfold scanFraction at h
  split at h
  · have := length_of_scanDigits h
    simp only [List.length_cons]; omega
  · cases h; exact Nat.le_refl _

theorem length_takeMinus_le (s : List Char) : (takeMinus s).2.length ≤ s.length := by
  unfold takeMinus
  split <;> simp

theorem length_takeSign_le (s : List Char) : (takeSign s).2.length ≤ s.length := by
  unfold takeSign
  split
  · simp
  · exact length_takeMinus_le _

theorem length_of_scanExponent {s rest : List Char} {e : Option Int}
    (h : scanExponent s = .ok (e, rest)) : rest.length ≤ s.length := by
  unfold scanExponent at h
  split at h
  · cases h; exact Nat.le_refl _
  · rename_i c t
    split at h
    · have hs := length_takeSign_le t
      split at h
      · cases h
      · rename_i hd
        have hr := length_of_scanDigits hd
        cases h
        rw [List.length_cons]
        omega
    · cases h; exact Nat.le_refl _

theorem length_of_scanNumber {s rest : List Char} {n : Numeral}
    (h : scanNumber s = .ok (n, rest)) : rest.length < s.length := by
  have h0 := length_takeMinus_le s
  unfold scanNumber at h
  split at h
  · cases h
  · rename_i h1
    have l1 := length_of_scanDigits h1
    split at h
    · cases h
    · split at h
      · cases h
      · rename_i h2
        have l2 := length_of_scanFraction h2
        split at h
        · cases h
        · rename_i h3
          have l3 := length_of_scanExponent h3
          cases h
          omega

/-! ## What a numeral stands for

A number that is not a whole number of 64 bits is computed in binary
arithmetic: the digits that fit 64 bits are rounded once, and the power of
ten is multiplied in or divided out with a second rounding. So a numeral
with many digits may come out one step beside the nearest number. -/

/-- The number of the longest run of leading digits that fits 64 bits,
after a number that fits, and the digits behind it. -/
def takeSignificand : Nat → List Char → Nat × List Char
  | n, [] => (n, [])
  | n, c :: rest =>
    let next := 10 * n + (c.toNat - 48)
    if next < wordBound then takeSignificand next rest else (n, c :: rest)

/-- The powers of ten that the format holds, each rounded once. -/
def powerOfTen (n : Nat) : Option Magnitude :=
  if n ≤ 308 then Magnitude.ofNat (Nat.pow 10 n) else none

/-- The number divided by `10 ^ 308` the given number of times. -/
def shrink : Nat → Magnitude → Magnitude
  | 0, m => m
  | steps + 1, m =>
    if m.isZero then m
    else match powerOfTen 308 with
      | some p => shrink steps ((m.div p).getD m)
      | none => m

/-- The binary number of `significand · 10 ^ exponent`, or nothing when it
is beyond the greatest. -/
def scaledNumber (significand : Nat) (exponent : Int) : Option Magnitude := do
  let m ← Magnitude.ofNat significand
  if 0 ≤ exponent then
    match powerOfTen exponent.toNat with
    | some p => m.mul p
    | none => if m.isZero then some m else none
  else
    let size := exponent.natAbs
    let steps := (size - 1) / 308
    let m := shrink steps m
    let p ← powerOfTen (size - 308 * steps)
    if m.isZero then some m else m.div p

/-- **The number that a numeral stands for.** -/
def Numeral.value (n : Numeral) : Except Flaw Number :=
  let (significand, dropped) := takeSignificand 0 n.whole
  if n.fraction.isEmpty && n.exponent.isNone && dropped.isEmpty &&
      (!n.negative || (0 < significand && significand ≤ wordBound / 2)) then
    .ok (if n.negative then .negative significand else .natural significand)
  else
    let (significand, left) := takeSignificand significand n.fraction
    let places : Int := n.fraction.length - left.length
    match scaledNumber significand ((n.exponent.getD 0) + dropped.length - places) with
    | some m => .ok (.float ⟨n.negative, m⟩)
    | none => .error .malformed

/-! ## Words -/

/-- The text after a word that is spelled out, or the flaw in it. -/
def scanWord : List Char → List Char → Except Flaw (List Char)
  | [], s => .ok s
  | _ :: _, [] => .error .truncated
  | w :: word, c :: s => if w = c then scanWord word s else .error .malformed

theorem length_of_scanWord {word s rest : List Char} (h : scanWord word s = .ok rest) :
    rest.length ≤ s.length := by
  fun_induction scanWord word s <;> simp_all
  omega

end Treedown.Json

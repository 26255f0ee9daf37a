import Treedown.Text.Blank
/-!
# Text — lines, blocks and columns

A text is a list of characters: every rule of this library reads or
writes text character by character, and counts in characters. This module
holds the operations that know nothing of documents: taking a text apart
into lines (`pieces`, `lines`), trimming, joining, indenting and padding.

Two ways of cutting a text into lines are kept apart. `splitOn '\n'` of
the standard library keeps an empty last line and every carriage return;
`lines` is the reading of a text file, where each line ends in a line feed
or in a carriage return and a line feed, and the last end is optional.
`flatten_pieces` says that cutting into pieces loses nothing.
-/

namespace Treedown

/-- **A text is the list of its characters.** -/
abbrev Text := List Char

/-- A string literal stands for its characters. -/
instance : Coe String Text := ⟨String.toList⟩

namespace Text

/-! ## Lines -/

/-- The text cut after each line feed: every piece but perhaps the last
ends in a line feed, and an empty text has no piece. -/
def pieces : Text → List Text
  | [] => []
  | c :: rest =>
    if c = '\n' then [c] :: pieces rest
    else match pieces rest with
      | [] => [[c]]
      | piece :: more => (c :: piece) :: more

/-- **Cutting into pieces loses nothing.** -/
theorem flatten_pieces (t : Text) : (pieces t).flatten = t := by
  induction t with
  | nil => rfl
  | cons c rest ih =>
    unfold pieces
    split
    · simp [ih]
    · split <;> rename_i h <;> rw [h] at ih
      · simpa using ih
      · simpa using ih

/-- The text without the character `c` at its end, if it ends so. -/
def chop (c : Char) (t : Text) : Text :=
  if t.getLast? = some c then t.dropLast else t

/-- A piece without its line end: a line feed, and a carriage return only
in front of that line feed. -/
def dropLineEnd (piece : Text) : Text :=
  if piece.getLast? = some '\n' then chop '\r' piece.dropLast else piece

/-- The lines of a file's text. -/
def lines (t : Text) : List Text :=
  (pieces t).map dropLineEnd

/-- The texts one after the other, with a line feed between two of them. -/
def unlines (ts : List Text) : Text :=
  ['\n'].intercalate ts

/-! ## Trimming -/

/-- The text without its longest end of characters in the class. -/
def dropEndWhile (p : Char → Bool) (t : Text) : Text :=
  (t.reverse.dropWhile p).reverse

/-- The text without white space at its end. -/
def trimEnd (t : Text) : Text :=
  dropEndWhile isBlank t

/-- The text without white space at either end. -/
def trim (t : Text) : Text :=
  trimEnd (t.dropWhile isBlank)

/-- Whether the text holds nothing but white space. -/
def blank (t : Text) : Bool :=
  t.all isBlank

/-- The text, unless it is absent or holds nothing but white space. -/
def unlessBlank (t : Option Text) : Option Text :=
  t.filter fun t => !t.blank

/-- The text, unless it is absent or empty. -/
def unlessEmpty (t : Option Text) : Option Text :=
  t.filter fun t => !t.isEmpty

/-! ## Cutting -/

/-- The parts before and after the first `c`, or nothing when the text
holds none. -/
def cutAt (c : Char) (t : Text) : Option (Text × Text) :=
  match t.dropWhile (· ≠ c) with
  | [] => none
  | _ :: rest => some (t.takeWhile (· ≠ c), rest)

/-- What follows a text that stands in front, or nothing when another text
stands there. -/
def after? : Text → Text → Option Text
  | [], t => some t
  | _ :: _, [] => none
  | p :: front, c :: t => if p = c then after? front t else none

theorem after?_eq_some_iff {front t rest : Text} :
    after? front t = some rest ↔ t = front ++ rest := by
  fun_induction after? front t <;> simp_all [eq_comm]

/-- The text between square brackets in front, and what follows the closing
bracket. -/
def bracketed? : Text → Option (Text × Text)
  | '[' :: t =>
    match t.dropWhile (· ≠ ']') with
    | [] => none
    | _ :: rest => some (t.takeWhile (· ≠ ']'), rest)
  | _ => none

theorem length_of_bracketed? {t inner rest : Text} (h : bracketed? t = some (inner, rest)) :
    rest.length < t.length := by
  unfold bracketed? at h
  split at h
  · rename_i t
    have hs := (List.dropWhile_suffix (l := t) (· ≠ ']')).length_le
    split at h
    · cases h
    · rename_i heq
      cases h
      rw [heq, List.length_cons] at hs
      rw [List.length_cons]
      omega
  · cases h

/-! ## Blocks of lines -/

/-- `n` spaces. -/
def spaces (n : Nat) : Text :=
  List.replicate n ' '

/-- The text with every line after the first moved right by `n` columns. -/
def hang (n : Nat) (t : Text) : Text :=
  t.flatMap fun c => if c = '\n' then '\n' :: spaces n else [c]

/-- The text with every line that is not empty moved right by `n`
columns. -/
def indent (n : Nat) (t : Text) : Text :=
  unlines ((t.splitOn '\n').map fun line => if line.isEmpty then [] else spaces n ++ line)

/-- The text filled up with spaces to `width` characters. -/
def padTo (width : Nat) (t : Text) : Text :=
  t ++ spaces (width - t.length)

/-! ## Numbers -/

/-- The decimal digits of a number. -/
def ofNat (n : Nat) : Text :=
  Nat.toDigits 10 n

end Text

end Treedown

import Treedown.Decimal.Extended
/-!
# TOML — values, and how a text is read

A configuration file is a table of values. The readers in this folder take
the front of a text and return what stands there with the rest of it, or
nothing when it is no TOML; why it is none is not kept. `loop` is the one
loop of all of them.
-/

namespace Treedown

namespace Toml

/-- **A value of a configuration file.** -/
inductive Value
  | string (s : Text)
  | integer (n : Int)
  | float (x : Extended)
  | boolean (b : Bool)
  /-- A date, a time of day or both, in one spelling. -/
  | moment (spelling : Text)
  | list (items : List Value)
  | table (entries : List (Text × Value))

/-! ## Comparing values -/

namespace Value

mutual

/-- Whether two values are the same. -/
def same : Value → Value → Bool
  | .string s, .string t => s = t
  | .integer m, .integer n => m = n
  | .float x, .float y => x = y
  | .boolean a, .boolean b => a = b
  | .moment s, .moment t => s = t
  | .list xs, .list ys => sameAll xs ys
  | .table xs, .table ys => sameEntries xs ys
  | _, _ => false

/-- Whether two rows of values are the same. -/
def sameAll : List Value → List Value → Bool
  | [], [] => true
  | x :: xs, y :: ys => same x y && sameAll xs ys
  | _, _ => false

/-- Whether two rows of entries are the same. -/
def sameEntries : List (Text × Value) → List (Text × Value) → Bool
  | [], [] => true
  | (k, x) :: xs, (l, y) :: ys => k = l && same x y && sameEntries xs ys
  | _, _ => false

end

mutual

/-- The test tells values apart. -/
theorem eq_of_same (x y : Value) (h : x.same y = true) : x = y := by
  unfold same at h
  split at h
  · rw [of_decide_eq_true h]
  · rw [of_decide_eq_true h]
  · rw [of_decide_eq_true h]
  · rw [of_decide_eq_true h]
  · rw [of_decide_eq_true h]
  · rw [eq_of_sameAll _ _ h]
  · rw [eq_of_sameEntries _ _ h]
  · cases h

theorem eq_of_sameAll (xs ys : List Value) (h : sameAll xs ys = true) : xs = ys := by
  match xs, ys with
  | [], [] => rfl
  | [], _ :: _ => cases h
  | _ :: _, [] => cases h
  | x :: xs, y :: ys =>
    rw [sameAll, Bool.and_eq_true] at h
    rw [eq_of_same x y h.1, eq_of_sameAll xs ys h.2]

theorem eq_of_sameEntries (xs ys : List (Text × Value)) (h : sameEntries xs ys = true) :
    xs = ys := by
  match xs, ys with
  | [], [] => rfl
  | [], _ :: _ => cases h
  | _ :: _, [] => cases h
  | (k, x) :: xs, (l, y) :: ys =>
    rw [sameEntries, Bool.and_eq_true, Bool.and_eq_true] at h
    obtain ⟨⟨hkey, hvalue⟩, hrest⟩ := h
    rw [of_decide_eq_true hkey, eq_of_same x y hvalue, eq_of_sameEntries xs ys hrest]

end

mutual

/-- A value passes the test with itself. -/
theorem same_refl (x : Value) : x.same x = true := by
  match x with
  | .list xs => exact sameAll_refl xs
  | .table entries => exact sameEntries_refl entries
  | .string _ | .integer _ | .float _ | .boolean _ | .moment _ => exact decide_eq_true rfl

theorem sameAll_refl (xs : List Value) : sameAll xs xs = true := by
  match xs with
  | [] => rfl
  | x :: xs => rw [sameAll, same_refl x, sameAll_refl xs, Bool.and_self]

theorem sameEntries_refl (xs : List (Text × Value)) : sameEntries xs xs = true := by
  match xs with
  | [] => rfl
  | (k, x) :: xs =>
    rw [sameEntries, same_refl x, sameEntries_refl xs, decide_eq_true rfl, Bool.and_self,
      Bool.and_self]

end

instance : DecidableEq Value := fun x y =>
  decidable_of_iff (x.same y = true) ⟨eq_of_same x y, fun h => h ▸ same_refl x⟩

end Value

/-! ## Loops -/

/-- Where a loop stands after a step. -/
inductive Step (σ : Type)
  | more (state : σ)
  | done (state : σ)

/-- **Steps until one is the last.** A step that is not the last takes some
of the text. -/
def loop {σ : Type} (step : σ → Text → Option (Step σ × Text)) (state : σ) (t : Text) :
    Option (σ × Text) :=
  match step state t with
  | none => none
  | some (.done state, rest) => some (state, rest)
  | some (.more state, rest) =>
    if rest.length < t.length then loop step state rest else none
termination_by t.length

/-! ## Between the values -/

/-- A blank inside a line. -/
def isSpace (c : Char) : Bool :=
  c == ' ' || c == '\t'

/-- What follows the blanks in front. -/
def dropSpace (t : Text) : Text :=
  t.dropWhile isSpace

/-- What follows a line end. -/
def lineEnd? : Text → Option Text
  | '\n' :: rest => some rest
  | '\r' :: '\n' :: rest => some rest
  | _ => none

/-- Whether a character may stand in a comment or a string: no control
character but the tabulator. -/
def isPlain (c : Char) : Bool :=
  c == '\t' || (' ' ≤ c && c ≠ '\x7f')

/-- What follows the rest of a line that holds at most a comment. -/
def endLine? (t : Text) : Option Text :=
  match dropSpace t with
  | [] => some []
  | '#' :: comment =>
    match comment.dropWhile isPlain with
    | [] => some []
    | rest => lineEnd? rest
  | rest => lineEnd? rest

/-- What follows blanks, line ends and comments. -/
def dropLayout (inComment : Bool) : Text → Option Text
  | [] => some []
  | '\n' :: rest => dropLayout false rest
  | '\r' :: '\n' :: rest => dropLayout false rest
  | c :: rest =>
    if inComment then if isPlain c then dropLayout true rest else none
    else if isSpace c then dropLayout false rest
    else if c = '#' then dropLayout true rest
    else some (c :: rest)

end Toml

end Treedown

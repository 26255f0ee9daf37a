import Treedown.Json.Literal
/-!
# JSON — tokens

A JSON text is a row of brackets, separators and literals with blanks
between them. `tokens` cuts a text into that row. The row ends where the
text ends or at the first token that is broken, so whatever follows a
flaw is never looked at. Each token takes at least one character
(`length_of_token`), which is why the cutting ends.
-/

namespace Treedown.Json

/-- **A token.** A string or a number whose value is unfit carries the
flaw that a reader meets who wants the value. -/
inductive Token
  | openList
  | closeList
  | openObject
  | closeObject
  | comma
  | colon
  | null
  | bool (b : Bool)
  | number (n : Except Flaw Number)
  | string (s : Except Flaw Text)
  /-- A string that does not come to its closing quote. -/
  | brokenString (halt : Halt)
  /-- Anything else that is cut off or misspelled. -/
  | broken (halt : Halt)

/-- The blanks of JSON. -/
def isSpace (c : Char) : Bool :=
  c == ' ' || c == '\n' || c == '\t' || c == '\r'

/-- A word is a token if it is spelled out. -/
def wordToken (word : String) (t : Token) (s : List Char) : Token × List Char :=
  match scanWord word.toList s with
  | .ok rest => (t, rest)
  | .error f => (.broken (.both f), [])

/-- The token that a string makes, and what follows it. -/
def stringToken (s : List Char) : Token × List Char :=
  let (pieces, stop) := scanString s
  match stop with
  | .ok rest => (.string (textOf none pieces), rest)
  | .error f =>
    let wanted := match textOf (some f) pieces with
      | .error wanted => wanted
      | .ok _ => f
    (.brokenString ⟨wanted, f⟩, [])

/-- The token that a number makes, and what follows it. -/
def numberToken (s : List Char) : Token × List Char :=
  match scanNumber s with
  | .ok (n, rest) => (.number n.value, rest)
  | .error halt => (.broken halt, [])

/-- The first token of a text that starts with no blank, and what follows
it. Nothing follows a broken token. -/
def tokenAt (c : Char) (rest : List Char) : Token × List Char :=
  if c = '[' then (.openList, rest)
  else if c = ']' then (.closeList, rest)
  else if c = '\x7b' then (.openObject, rest)
  else if c = '\x7d' then (.closeObject, rest)
  else if c = ',' then (.comma, rest)
  else if c = ':' then (.colon, rest)
  else if c = '"' then stringToken rest
  else if c = 'n' then wordToken "ull" .null rest
  else if c = 't' then wordToken "rue" (.bool true) rest
  else if c = 'f' then wordToken "alse" (.bool false) rest
  else if c = '-' ∨ c.isDigit then numberToken (c :: rest)
  else (.broken (.both .malformed), [])

/-- The first token of a text and what follows it, or nothing when only
blanks are left. -/
def token (s : List Char) : Option (Token × List Char) :=
  match s.dropWhile isSpace with
  | [] => none
  | c :: rest => some (tokenAt c rest)

/-! ## A token takes at least one character -/

theorem length_wordToken_le (word : String) (t : Token) (s : List Char) :
    (wordToken word t s).2.length ≤ s.length := by
  unfold wordToken
  split
  · rename_i h
    exact length_of_scanWord h
  · simp

theorem length_stringToken_le (s : List Char) : (stringToken s).2.length ≤ s.length := by
  unfold stringToken
  split
  rename_i pieces stop hs
  split
  · rename_i rest
    exact Nat.le_of_lt (length_of_scanString (s := s) (by rw [hs]))
  · simp

theorem length_numberToken_lt (c : Char) (s : List Char) :
    (numberToken (c :: s)).2.length < s.length + 1 := by
  unfold numberToken
  split
  · rename_i h
    simpa using length_of_scanNumber h
  · simp

theorem length_ite_le {p : Prop} [Decidable p] {x y : Token × List Char} {n : Nat}
    (hx : x.2.length ≤ n) (hy : y.2.length ≤ n) : (if p then x else y).2.length ≤ n := by
  split <;> assumption

theorem length_tokenAt_le (c : Char) (s : List Char) : (tokenAt c s).2.length ≤ s.length :=
  have keep : s.length ≤ s.length := Nat.le_refl _
  length_ite_le keep <| length_ite_le keep <| length_ite_le keep <| length_ite_le keep <|
  length_ite_le keep <| length_ite_le keep <|
  length_ite_le (length_stringToken_le s) <|
  length_ite_le (length_wordToken_le _ _ s) <|
  length_ite_le (length_wordToken_le _ _ s) <|
  length_ite_le (length_wordToken_le _ _ s) <|
  length_ite_le (Nat.le_of_lt_succ (length_numberToken_lt c s)) (Nat.zero_le _)

theorem length_of_token {s rest : List Char} {t : Token} (h : token s = some (t, rest)) :
    rest.length < s.length := by
  unfold token at h
  split at h
  · cases h
  · rename_i c after hs
    have h1 := length_tokenAt_le c after
    rw [Option.some.inj h] at h1
    have h2 := (List.dropWhile_suffix (l := s) isSpace).length_le
    rw [hs, List.length_cons] at h2
    exact Nat.lt_of_le_of_lt h1 h2

/-- **The tokens of a text**, up to its end or to the first flaw. -/
def tokens (s : List Char) : List Token :=
  match _h : token s with
  | none => []
  | some (t, rest) => t :: tokens rest
termination_by s.length
decreasing_by exact length_of_token _h

end Treedown.Json

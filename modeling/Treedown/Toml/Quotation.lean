import Treedown.Toml.Value
/-!
# TOML — strings and keys

Strings stand in double quotes, where a backslash escapes, or in single
ones, where nothing does. Three quotes open a string of several lines. A
key is a bare word or a string of one line, and a dotted key is a path of
keys.
-/

namespace Treedown

namespace Toml

/-! ## Escapes -/

/-- The character with a number written in hexadecimal digits, if there is
one. -/
def scalar? (digits : List Char) : Option Char :=
  let n := digits.foldl (fun n c =>
    16 * n + (if c.isDigit then c.toNat - 48 else c.toLower.toNat - 87)) 0
  let hexadecimal := digits.all fun c => c.isDigit || ('a' ≤ c.toLower && c.toLower ≤ 'f')
  if hexadecimal && n.isValidChar then some (Char.ofNat n) else none

/-- The character that an escape stands for. The backslash has been read. -/
def escape? : Text → Option (Char × Text)
  | 'b' :: rest => some ('\x08', rest)
  | 't' :: rest => some ('\t', rest)
  | 'n' :: rest => some ('\n', rest)
  | 'f' :: rest => some ('\x0c', rest)
  | 'r' :: rest => some ('\r', rest)
  | '"' :: rest => some ('"', rest)
  | '\\' :: rest => some ('\\', rest)
  | 'u' :: a :: b :: c :: d :: rest => (scalar? [a, b, c, d]).map (·, rest)
  | 'U' :: a :: b :: c :: d :: e :: f :: g :: h :: rest =>
    (scalar? [a, b, c, d, e, f, g, h]).map (·, rest)
  | _ => none

/-- What follows blanks and line ends. -/
def dropBlank : Text → Text
  | '\r' :: '\n' :: rest => dropBlank rest
  | c :: rest => if isSpace c || c == '\n' then dropBlank rest else c :: rest
  | [] => []

/-- What follows a backslash that hides a line end and all blanks and line
ends behind it. -/
def hiddenLineEnd? (t : Text) : Option Text :=
  (lineEnd? (dropSpace t)).map dropBlank

/-! ## Strings -/

/-- A step inside a string on one line. -/
def basicStep (done : Text) : Text → Option (Step Text × Text)
  | '"' :: rest => some (.done done, rest)
  | '\\' :: rest => (escape? rest).map fun (c, rest) => (.more (done ++ [c]), rest)
  | c :: rest => if isPlain c then some (.more (done ++ [c]), rest) else none
  | [] => none

/-- The end of a string of several lines: three quotes, up to two more of
which belong to the string. -/
def closing? (q : Char) (t : Text) : Option (Text × Text) :=
  let quotes := t.takeWhile (· = q)
  if quotes.length < 3 then none
  else
    let own := min (quotes.length - 3) 2
    some (List.replicate own q, t.drop (own + 3))

/-- A character or a line end inside a string of several lines. -/
def multilineStep (done : Text) : Text → Option (Step Text × Text)
  | '\n' :: rest => some (.more (done ++ ['\n']), rest)
  | '\r' :: '\n' :: rest => some (.more (done ++ ['\n']), rest)
  | c :: rest => if isPlain c then some (.more (done ++ [c]), rest) else none
  | [] => none

/-- A step inside a string of several lines that has escapes. -/
def multilineBasicStep (done t : Text) : Option (Step Text × Text) :=
  match closing? '"' t with
  | some (own, rest) => some (.done (done ++ own), rest)
  | none =>
    match t with
    | '\\' :: rest =>
      match hiddenLineEnd? rest with
      | some rest => some (.more done, rest)
      | none => (escape? rest).map fun (c, rest) => (.more (done ++ [c]), rest)
    | t => multilineStep done t

/-- A step inside a string of several lines that has none. -/
def multilineLiteralStep (done t : Text) : Option (Step Text × Text) :=
  match closing? '\'' t with
  | some (own, rest) => some (.done (done ++ own), rest)
  | none => multilineStep done t

/-- A string on one line. -/
def quoted? : Text → Option (Text × Text)
  | '"' :: rest => loop basicStep [] rest
  | '\'' :: rest =>
    match rest.dropWhile fun c => isPlain c && c ≠ '\'' with
    | '\'' :: after => some (rest.takeWhile fun c => isPlain c && c ≠ '\'', after)
    | _ => none
  | _ => none

/-- **A string.** A line end directly behind three quotes is no part of
it. -/
def string? (t : Text) : Option (Text × Text) :=
  let opened (rest : Text) := (lineEnd? rest).getD rest
  match t with
  | '"' :: '"' :: '"' :: rest => loop multilineBasicStep [] (opened rest)
  | '\'' :: '\'' :: '\'' :: rest => loop multilineLiteralStep [] (opened rest)
  | t => quoted? t

/-! ## Keys -/

/-- Whether a character may stand in a key without quotes. -/
def isBare (c : Char) : Bool :=
  c.isAlphanum || c == '_' || c == '-'

/-- A key: a string on one line or a bare word. -/
def key? (t : Text) : Option (Text × Text) :=
  match t with
  | '"' :: _ | '\'' :: _ => quoted? t
  | t =>
    let word := t.takeWhile isBare
    if word.isEmpty then none else some (word, t.dropWhile isBare)

/-- A step along a dotted key. -/
def keysStep (path : List Text) (t : Text) : Option (Step (List Text) × Text) :=
  match key? (dropSpace t) with
  | none => none
  | some (key, rest) =>
    match dropSpace rest with
    | '.' :: rest => some (.more (path ++ [key]), rest)
    | rest => some (.done (path ++ [key]), rest)

/-- How many keys a dotted key may have at most, and how deep values may be
nested. -/
def depthLimit : Nat := 79

/-- **A dotted key**, with the blanks around it. -/
def keys? (t : Text) : Option (List Text × Text) :=
  (loop keysStep [] t).filter (·.1.length ≤ depthLimit)

end Toml

end Treedown

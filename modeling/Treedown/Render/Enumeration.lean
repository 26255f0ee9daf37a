import Treedown.Render.Rendered
/-!
# Rendering — lists

An item is written behind its marker, and what follows its first line hangs
under the first character of its text. A list inside an item brings its
own indentation, two columns for every level below the first, and is put
in as it is; every other block is moved under the text.
-/

namespace Treedown

namespace Render

/-- How far a list is indented. -/
def listIndent (c : Context) (f : Fields) : Nat :=
  if c.inItem then 2 * (f.level.toNat - 1) else 0

/-- A block below the text of an item; an empty one leaves nothing. -/
def itemBlock (hanging : Nat) (kind : Kind) (t : Text) : Text :=
  if t.isEmpty then []
  else '\n' :: if kind.isList then t else Text.indent hanging t

/-- An item behind its marker. -/
def item (marker : Text) (f : Fields) (children : List Rendered) : Outcome := do
  let texts ← Rendered.texts children
  return marker ++ Text.hang marker.length (f.text.getD []) ++
    (List.zipWith (itemBlock marker.length) (children.map Rendered.kind) texts).flatten

/-- The items of a list, the first with the given number. -/
def itemTexts (marker : Nat → Text) (number : Nat) :
    List Rendered → Except Malformed (List Text)
  | [] => .ok []
  | .mk _ fields _ children :: rest => do
    let first ← item (marker number) fields children
    let others ← itemTexts marker (number + 1) rest
    return first :: others

/-- **A list** with the marker of each number. The items themselves are
not rendered, whatever their kind. -/
def list (marker : Nat → Text) (kind : Kind) (items : List Rendered) : Outcome :=
  if items.isEmpty then .error ⟨kind, .noItems⟩
  else (itemTexts marker 1 items).map Text.unlines

/-- The marker of an item of an unordered list. -/
def bullet (indent : Nat) (_number : Nat) : Text :=
  Text.spaces indent ++ ("- " : Text)

/-- The marker of an item of an ordered list. -/
def numeral (indent : Nat) (number : Nat) : Text :=
  Text.spaces indent ++ Text.ofNat number ++ (". " : Text)

/-- An item outside a list: its text, and every block on lines of its
own. -/
def loneItem (f : Fields) (children : List Rendered) : Outcome := do
  let texts ← Rendered.texts children
  return Text.unlines (f.text.getD [] :: texts)

end Render

end Treedown

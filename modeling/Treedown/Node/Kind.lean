import Treedown.Text.Basic
/-!
# Nodes — kinds

A node's kind is written as a name. Twenty-one names stand for kinds that
have a rule for rendering; every other name is kept as it is. A `Kind`
holds the proof that an unknown name is unknown, so kinds and names are
the same thing said twice: `name_ofName` and `ofName_name` are the two
halves of that.
-/

namespace Treedown

/-- **The kinds that have a rule.** -/
inductive Known
  | document | header | preamble | section | paragraph | olist | ulist | listItem | admonition
  | example | literal | listing | thematicBreak | pageBreak | video | image | inlineImage
  | inlineAnchor | inlineQuoted | table | text
  deriving DecidableEq, Repr

namespace Known

/-- The name of a kind. -/
def name : Known → Text
  | .document => "document"
  | .header => "header"
  | .preamble => "preamble"
  | .section => "section"
  | .paragraph => "paragraph"
  | .olist => "olist"
  | .ulist => "ulist"
  | .listItem => "list_item"
  | .admonition => "admonition"
  | .example => "example"
  | .literal => "literal"
  | .listing => "listing"
  | .thematicBreak => "thematic_break"
  | .pageBreak => "page_break"
  | .video => "video"
  | .image => "image"
  | .inlineImage => "inline_image"
  | .inlineAnchor => "inline_anchor"
  | .inlineQuoted => "inline_quoted"
  | .table => "table"
  | .text => "text"

/-- All of them. -/
def all : List Known :=
  [.document, .header, .preamble, .section, .paragraph, .olist, .ulist, .listItem, .admonition,
    .example, .literal, .listing, .thematicBreak, .pageBreak, .video, .image, .inlineImage,
    .inlineAnchor, .inlineQuoted, .table, .text]

/-- The kind that a name stands for. -/
def ofName? (name : Text) : Option Known :=
  all.find? (·.name == name)

theorem name_of_ofName? {name : Text} {k : Known} (h : ofName? name = some k) : k.name = name := by
  simpa using List.find?_some h

/-- The names are pairwise different. -/
@[simp] theorem ofName?_name (k : Known) : ofName? k.name = some k := by
  cases k <;> rfl

end Known

/-- **A kind of node**: a known one, or any other name. -/
inductive Kind
  | known (k : Known)
  | other (name : Text) (unknown : Known.ofName? name = none)
  deriving DecidableEq

namespace Kind

/-- The kind with a name. -/
def ofName (name : Text) : Kind :=
  match h : Known.ofName? name with
  | some k => .known k
  | none => .other name h

/-- The name of a kind. -/
def name : Kind → Text
  | .known k => k.name
  | .other name _ => name

/-- **The kind with a name has that name.** -/
@[simp] theorem name_ofName (name : Text) : (ofName name).name = name := by
  unfold ofName
  split
  · rename_i h
    exact Known.name_of_ofName? h
  · rfl

/-- **A kind is the one with its name.** -/
@[simp] theorem ofName_name (k : Kind) : ofName k.name = k := by
  unfold ofName
  cases k with
  | known k =>
    split
    · rename_i h
      simp only [name, Known.ofName?_name, Option.some.injEq] at h
      rw [h]
    · rename_i h
      simp [name] at h
  | other name unknown =>
    split
    · rename_i h
      simp only [Kind.name] at h
      rw [unknown] at h
      cases h
    · rfl

/-- Whether nodes of this kind are lists. -/
def isList : Kind → Bool
  | .known .olist | .known .ulist => true
  | _ => false

/-- Whether the kind has no rule. -/
def isOther : Kind → Bool
  | .known _ => false
  | .other _ _ => true

end Kind

end Treedown

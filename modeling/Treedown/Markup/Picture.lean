import Treedown.Markup.Block
import Treedown.Node.Attributes
import Treedown.Text.Word
/-!
# Markup — pictures

A picture is written as a Markdown image behind a style comment that
carries its size. Pictures stand in a tree as nodes of their own, and they
stand inside paragraphs as macros, `image:SOURCE[PARAMETERS]`. A macro
begins at a word boundary and may have its colon doubled. `segments` takes
a text apart into macros and the characters between them; each macro is
then written as a picture whose attributes are its parameters.
-/

namespace Treedown

namespace Markup

/-! ## Writing a picture -/

/-- The tag of a length: a percent sign is written as a word. -/
def lengthTag (axis : Char) (length : Text) : Text :=
  match length.getLast? with
  | some '%' => axis :: Text.trim length.dropLast ++ ("percent" : Text)
  | _ => axis :: length

/-- The tag of a length that may be missing or blank. -/
def lengthTags (axis : Char) (length : Option Text) : List Text :=
  match length.map Text.trim with
  | some (c :: rest) => [lengthTag axis (c :: rest)]
  | _ => []

/-- **A picture** with its alternative text, its source and its size. -/
def picture (alt source : Text) (width height : Option Text) : Text :=
  let markup : Text :=
    ("![" : Text) ++ alt ++ ("](" : Text) ++ source ++ (")" : Text)
  match lengthTags 'w' width ++ lengthTags 'h' height with
  | [] => markup
  | tags => styleComment ([' '].intercalate tags) ++ markup

/-- A picture described by attributes: the first positional one is the
alternative text, the second and the third are the size where it has no
name. -/
def pictureOf (a : Attributes) (source : Text) : Text :=
  picture ((a.positional? 1).getD []) source (a.namedOrPositional? "width" 2)
    (a.namedOrPositional? "height" 3)

/-! ## The parameters of a macro -/

/-- The text between matching quotes, or the text itself. -/
def unquote (t : Text) : Text :=
  match t with
  | [] => []
  | q :: rest =>
    if (q = '"' ∨ q = '\'') ∧ rest.getLast? = some q then rest.dropLast else t

/-- Whether a text may name a parameter. -/
def isName (t : Text) : Bool :=
  !t.isEmpty && t.all fun c => c.isAlphanum || c == '-' || c == '_'

/-- A parameter: a name and a value, or a value alone. -/
def namedParameter? (entry : Text) : Option (Text × Text) :=
  match entry.cutAt '=' with
  | some (key, value) => if isName key.trim then some (key.trim, unquote value.trim) else none
  | none => none

/-- The parameters written into attributes. Only values without a name are
counted. -/
def readParameters (a : Attributes) (position : Nat) : List Text → Attributes
  | [] => a
  | entry :: rest =>
    match namedParameter? entry.trim with
    | some (key, value) => readParameters (a.set key value) position rest
    | none => readParameters (a.setPositional position (unquote entry.trim)) (position + 1) rest

/-- **The attributes that a macro's parameters stand for.** -/
def parameters (t : Text) : Attributes :=
  if t.blank then .empty else readParameters .empty 1 (t.splitOn ',')

/-! ## Macros in a text -/

/-- An image macro. -/
structure PictureMacro where
  source : Text
  parameters : Text

/-- The picture that a macro stands for. -/
def PictureMacro.render (m : PictureMacro) : Text :=
  pictureOf (Markup.parameters m.parameters) m.source

/-- Whether a character may stand in the source of a picture. -/
def inSource (c : Char) : Bool :=
  c ≠ '[' && !isBlank c

/-- The text without a colon in front. -/
def dropColon : Text → Text
  | ':' :: rest => rest
  | rest => rest

/-- The macro that a text starts with, and what follows it. -/
def macroAt? (t : Text) : Option (PictureMacro × Text) :=
  match Text.after? "image:" t with
  | none => none
  | some rest =>
    let source := (dropColon rest).takeWhile inSource
    if source.isEmpty || source.head? = some ':' then none
    else (Text.bracketed? ((dropColon rest).dropWhile inSource)).map fun (inner, behind) =>
      (⟨source, inner⟩, behind)

theorem length_dropColon_le (t : Text) : (dropColon t).length ≤ t.length := by
  unfold dropColon
  split <;> simp

/-- A macro takes at least one character. -/
theorem length_of_macroAt? {t rest : Text} {m : PictureMacro} (h : macroAt? t = some (m, rest)) :
    rest.length < t.length := by
  unfold macroAt? at h
  split at h
  · cases h
  · rename_i body hb
    have h0 : body.length ≤ t.length := by
      rw [Text.after?_eq_some_iff.1 hb, List.length_append]
      omega
    have h1 := length_dropColon_le body
    have h2 := (List.dropWhile_suffix (l := dropColon body) inSource).length_le
    simp only [Bool.or_eq_true, List.isEmpty_iff, decide_eq_true_eq, Option.ite_none_left_eq_some,
      Option.map_eq_some_iff, Prod.exists, Prod.mk.injEq] at h
    obtain ⟨-, inner, behind, hbr, -, rfl⟩ := h
    have h3 := Text.length_of_bracketed? hbr
    omega

/-- A part of a text: a character that stays as it is, or a macro. -/
inductive Segment
  | char (c : Char)
  | picture (m : PictureMacro)

/-- **The segments of a text.** `inWord` tells whether a word character
stands in front; a macro does not begin inside a word, and none ends in
one. -/
def segments (inWord : Bool) (t : Text) : List Segment :=
  match _h : t with
  | [] => []
  | c :: rest =>
    match _hm : if inWord then none else macroAt? (c :: rest) with
    | some (m, after) => .picture m :: segments false after
    | none => .char c :: segments (isWord c) rest
termination_by t.length
decreasing_by
  · subst _h
    split at _hm
    · cases _hm
    · exact length_of_macroAt? _hm
  · subst _h
    simp

/-- A segment as it is written. -/
def Segment.render : Segment → Text
  | .char c => [c]
  | .picture m => m.render

/-- Whether a segment is a macro. -/
def Segment.isPicture : Segment → Bool
  | .char _ => false
  | .picture _ => true

/-- **A text with its macros written as pictures**, or nothing when it
holds none. -/
def replaceMacros (t : Text) : Option Text :=
  let parts := segments false t
  if parts.any Segment.isPicture then some (parts.flatMap Segment.render) else none

/-- Whether a line is one image macro and nothing else but blanks around
it. -/
def isStandalone (line : Text) : Bool :=
  match Text.after? "image:" line.trim with
  | none => false
  | some rest =>
    !(rest.takeWhile inSource).isEmpty &&
      match Text.bracketed? (rest.dropWhile inSource) with
      | some (_, behind) => behind.isEmpty
      | none => false

end Markup

end Treedown

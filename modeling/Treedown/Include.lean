import Treedown.Text.Basic
/-!
# Include directives and their placeholders

Included files are not put into the document that includes them. A line
that is an include directive is replaced by a placeholder, an HTML comment
that names the file as it will be called once it is published. `substitute`
does that for a source text, and `isMarker` recognises the placeholders
when they come back as paragraphs.
-/

namespace Treedown

namespace Include

/-- What a placeholder opens with. -/
def markerOpen : Text := "<!--include:"

/-- What a placeholder closes with. -/
def markerClose : Text := "-->"

/-- Whether a line is a placeholder: nothing but the comment, on one
line. -/
def isMarker (line : Text) : Bool :=
  match Text.after? markerOpen line with
  | some rest => markerClose.isSuffixOf rest && !rest.contains '\n'
  | none => false

/-- Whether a character may stand in the target of a directive. -/
def inTarget (c : Char) : Bool :=
  c ≠ '[' && !isBlank c

/-- The target of a line that is an include directive and nothing else.
Blanks may follow it. -/
def target? (line : Text) : Option Text :=
  match Text.after? "include::" line with
  | none => none
  | some rest =>
    let target := rest.takeWhile inTarget
    if target.isEmpty then none
    else match Text.bracketed? (rest.dropWhile inTarget) with
      | some (_, behind) => if Text.blank behind then some target else none
      | none => none

/-- A file name without its extension. A dot in front marks a hidden file
and no extension. -/
def stem? (name : Text) : Option Text :=
  match name.reverse.dropWhile (· ≠ '.') with
  | [] => none
  | _ :: before => if before.isEmpty then none else some before.reverse

/-- **A target with its extension replaced**, or the suffix put behind it
where the file name has none. -/
def replaceExtension (target suffix : Text) : Text :=
  let name := (target.reverse.takeWhile (· ≠ '/')).reverse
  let folder := target.take (target.length - name.length)
  match stem? name with
  | some stem => folder ++ stem ++ suffix
  | none => target ++ suffix

/-- **The placeholder of a target.** -/
def placeholder (target suffix : Text) : Text :=
  markerOpen ++ replaceExtension target suffix ++ markerClose

/-- Whether a character ends a line. -/
def endsLine (c : Char) : Bool :=
  c == '\n' || c == '\r'

/-- A piece of a source without the characters that end it. -/
def body (piece : Text) : Text :=
  piece.dropEndWhile endsLine

/-- A piece of a source after the substitution. A directive keeps its line end. -/
def substitutePiece (suffix piece : Text) : Text :=
  match target? (body piece) with
  | some target => placeholder target suffix ++ piece.drop (body piece).length
  | none => piece

/-- **A source with its include directives replaced.** -/
def substitute (suffix source : Text) : Text :=
  source.pieces.flatMap (substitutePiece suffix)

/-- The targets that the substitution replaces, in order. -/
def targets (source : Text) : List Text :=
  source.pieces.filterMap fun piece => target? (body piece)

end Include

end Treedown

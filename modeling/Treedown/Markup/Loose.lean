import Treedown.Markup.Block
/-!
# Markup — loose text

The lines of a listing that is no code are read as prose: blank lines
separate groups, and the lines of a group belong to one paragraph. A group
of one line may be a heading of the source language.
-/

namespace Treedown

namespace Markup

/-- **The groups of lines between blank lines**, each line trimmed. -/
def groups : List Text → List (List Text)
  | [] => []
  | line :: rest =>
    if Text.blank line then groups rest
    else match rest, groups rest with
      | [], _ => [[line.trim]]
      | next :: _, first :: more =>
        if Text.blank next then [line.trim] :: first :: more
        else (line.trim :: first) :: more
      | _, [] => [[line.trim]]

/-- A heading of the source language: the number of its equals signs and
its text, which is on one line. -/
def heading? (line : Text) : Option (Nat × Text) :=
  let marks := line.takeWhile (· = '=')
  let behind := line.dropWhile (· = '=')
  let title := behind.dropWhile isBlank
  if marks.isEmpty || behind.length = title.length || title.isEmpty || title.contains '\n' then
    none
  else some (marks.length, title)

/-- A heading of a level. -/
def heading (level : Nat) (title : Text) : Text :=
  List.replicate level '#' ++ ' ' :: title

/-- A group as it is written: a heading, or its lines in one. -/
def groupText : List Text → Text
  | [line] =>
    match heading? line with
    | some (level, title) => heading level title
    | none => line
  | lines => [' '].intercalate lines

/-- **Lines read as prose.** -/
def looseText (lines : List Text) : Text :=
  joinBlocks ((groups lines).map groupText)

end Markup

end Treedown

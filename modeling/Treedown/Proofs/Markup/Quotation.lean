import Treedown.Markup.Block
import Treedown.Proofs.Text.Casing
import Treedown.Proofs.Text.Lines
import Treedown.Proofs.Text.Trim
/-!
# Markup — quotations line by line

Text is quoted in two ways. `quote` cuts a text at its line feeds and puts
marks in front of every line; since an empty line keeps all of its marks but
the last space, dropping two columns for each mark brings the text back,
whatever it is (`withoutMarks_quote`). `quoteLines` reads the text as that of a
file, so a line feed at its end makes no line of its own.
-/

namespace Treedown

namespace Markup

open Text

/-! ## Quoting at a depth -/

/-- The marks in front of a line that is quoted `depth` times. -/
def marks (depth : Nat) : Text :=
  (List.replicate depth ("> " : Text)).flatten

/-- A line as it is quoted. -/
def quotedLine (depth : Nat) (line : Text) : Text :=
  if line.isEmpty then (marks depth).trimEnd else marks depth ++ line

/-- **The text without its marks.** -/
def withoutMarks (depth : Nat) (t : Text) : Text :=
  unlines ((t.splitOn '\n').map (·.drop (2 * depth)))

theorem marks_succ (depth : Nat) : marks (depth + 1) = '>' :: ' ' :: marks depth := rfl

theorem length_marks (depth : Nat) : (marks depth).length = 2 * depth := by
  induction depth with
  | zero => rfl
  | succ depth ih =>
    rw [marks_succ, List.length_cons, List.length_cons, ih]
    omega

theorem not_mem_marks (depth : Nat) : '\n' ∉ marks depth := by
  induction depth with
  | zero => exact List.not_mem_nil
  | succ depth ih =>
    exact List.not_mem_cons_of_ne_of_not_mem (by decide)
      (List.not_mem_cons_of_ne_of_not_mem (by decide) ih)

theorem not_mem_quotedLine (depth : Nat) {line : Text} (h : '\n' ∉ line) :
    '\n' ∉ quotedLine depth line := by
  rw [quotedLine]
  split
  · exact fun hmem => not_mem_marks depth (trimEnd_subset _ hmem)
  · exact List.not_mem_append (not_mem_marks depth) h

/-- Behind the columns of its marks a quoted line is as it was. -/
theorem drop_quotedLine (depth : Nat) (line : Text) :
    (quotedLine depth line).drop (2 * depth) = line := by
  rw [quotedLine]
  split
  · rename_i hempty
    have hle := (dropEndWhile_prefix_self isBlank (marks depth)).length_le
    rw [List.isEmpty_iff.1 hempty]
    exact List.drop_eq_nil_of_le (hle.trans (length_marks depth).le)
  · exact List.drop_left' (length_marks depth)

/-- A quoted line shows that it is one. -/
theorem head?_quotedLine (depth : Nat) (line : Text) :
    (quotedLine (depth + 1) line).head? = some '>' := by
  rw [quotedLine, marks_succ]
  split
  · rw [← List.nil_append ('>' :: ' ' :: marks depth), trimEnd_append_cons _ _ (by decide)]
    rfl
  · rfl

/-- **Quoting works on each line by itself.** -/
theorem splitOn_quote (depth : Nat) (t : Text) :
    (quote depth t).splitOn '\n' = (t.splitOn '\n').map (quotedLine depth) := by
  refine List.splitOn_intercalate '\n' (fun line hline => ?_) fun hnil =>
    List.splitOn_ne_nil '\n' t (List.map_eq_nil_iff.1 hnil)
  obtain ⟨old, hold, rfl⟩ := List.mem_map.1 hline
  exact not_mem_quotedLine depth (not_mem_of_mem_splitOn hold)

/-- **What was quoted comes back**, blank lines and line feeds at the end
too. -/
theorem withoutMarks_quote (depth : Nat) (t : Text) : withoutMarks depth (quote depth t) = t := by
  have hlines : (·.drop (2 * depth)) ∘ quotedLine depth = id :=
    funext (drop_quotedLine depth)
  rw [withoutMarks, splitOn_quote, List.map_map, hlines, List.map_id, unlines]
  exact List.intercalate_splitOn '\n'

theorem quote_injective (depth : Nat) : Function.Injective (quote depth) :=
  Function.LeftInverse.injective (withoutMarks_quote depth)

/-! ## Quoting the lines of a file -/

/-- **The lines of a file are quoted one by one**, if there are any. -/
theorem splitOn_quoteLines {t : Text} (h : t ≠ []) :
    (quoteLines t).splitOn '\n' = t.lines.map (("> " : Text) ++ ·) := by
  refine List.splitOn_intercalate '\n' (fun line hline => ?_) fun hnil =>
    lines_ne_nil h (List.map_eq_nil_iff.1 hnil)
  obtain ⟨old, hold, rfl⟩ := List.mem_map.1 hline
  exact List.not_mem_append (by decide) (not_mem_of_mem_lines hold)

/-! ## The comment over a quotation -/

theorem not_mem_styleComment {tags : Text} (h : '\n' ∉ tags) : '\n' ∉ styleComment tags :=
  List.not_mem_append (List.not_mem_append (by decide) h) (by decide)

theorem not_mem_admonitionStyle {caption : Text} (h : '\n' ∉ caption) :
    '\n' ∉ admonitionStyle caption :=
  not_mem_styleComment (List.not_mem_append (by decide) (not_mem_capitalize h))

end Markup

end Treedown

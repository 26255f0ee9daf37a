import Treedown.Proofs.Include.Placeholder
/-!
# Include directives — line by line

The substitution reads a source line by line and touches directives alone.
`Becomes` says what becomes of a line: a directive turns into its
placeholder and keeps its line end, and any other line stays as it is, down
to the last character. A source may therefore be cut behind a line feed and
substituted in parts (`substitute_append`). Nothing is left to do in a source
without directives (`substitute_of_settled`), and a suffix on one line leaves
such a source (`settled_substitute`), so that a second substitution, even for
another suffix, changes nothing. `substitute_lineByLine` collects these laws.
-/

namespace Treedown

namespace Include

variable {suffix source piece content ending target : Text}

/-! ## Lines and their ends -/

/-- **A line and its end**: the carriage returns and line feeds behind it, all
of them and there may be none. -/
structure Ends (content ending piece : Text) : Prop where
  eq : piece = content ++ ending
  run : ∀ c ∈ ending, c = '\n' ∨ c = '\r'
  stop : ∀ c ∈ content.getLast?, c ≠ '\n' ∧ c ≠ '\r'

theorem endsLine_iff {c : Char} : endsLine c = true ↔ c = '\n' ∨ c = '\r' := by
  rw [endsLine, Bool.or_eq_true, beq_iff_eq, beq_iff_eq]

/-- **Every piece is cut so.** -/
theorem ends_body (piece : Text) : Ends (body piece) (lineEnd piece) piece where
  eq := (body_append_lineEnd piece).1.symm
  run c hc := endsLine_iff.1 ((body_append_lineEnd piece).2 c hc)
  stop c hc := by
    have hne : piece.dropEndWhile endsLine ≠ [] := fun hnil => by
      rw [body, hnil] at hc
      cases hc
    obtain ⟨front, last, hlast, hbody⟩ := Text.exists_concat_of_dropEndWhile_ne_nil hne
    rw [body, hbody, List.getLast?_concat] at hc
    obtain rfl := Option.some.inj hc
    rw [← not_or, ← endsLine_iff, hlast]
    exact Bool.false_ne_true

/-- In no other way. -/
theorem Ends.body_eq (h : Ends content ending piece) : body piece = content := by
  rw [h.eq, body, Text.dropEndWhile_append_of_forall fun c hc => endsLine_iff.2 (h.run c hc)]
  rcases List.eq_nil_or_concat' content with rfl | ⟨front, c, rfl⟩
  · rfl
  · have hc := h.stop c List.getLast?_concat
    rw [← not_or, ← endsLine_iff, Bool.not_eq_true] at hc
    exact Text.dropEndWhile_concat front hc

/-! ## What becomes of a line -/

/-- A placeholder does not open like a directive. -/
theorem not_isDirective_placeholder (target suffix other : Text) :
    ¬ IsDirective (placeholder target suffix) other := by
  rintro ⟨-, -, attributes, behind, hline, -, -⟩
  rw [placeholder_eq] at hline
  exact absurd (List.cons.inj hline).1 (by decide)

/-- **What becomes of a line of a source.** -/
inductive Becomes (suffix before after : Text) : Prop
  /-- A directive becomes its placeholder, with the same line end. -/
  | placeholder {content ending target : Text} (hends : Ends content ending before)
      (h : IsDirective content target)
      (hafter : after = Include.placeholder target suffix ++ ending) (hchanged : after ≠ before)
  | same (h : ∀ content ending target, Ends content ending before → ¬ IsDirective content target)
      (hafter : after = before)

/-- **A directive is changed**, and nothing else is. -/
theorem becomes_substitutePiece (suffix piece : Text) :
    Becomes suffix piece (substitutePiece suffix piece) := by
  by_cases h : ∃ target, IsDirective (body piece) target
  · obtain ⟨target, h⟩ := h
    refine .placeholder (ends_body piece) h (substitutePiece_of_isDirective suffix h) fun hsame => ?_
    have hbody := (body_substitutePiece suffix h).1
    rw [hsame] at hbody
    rw [hbody] at h
    exact not_isDirective_placeholder target suffix target h
  · have hnot := not_exists.1 h
    refine .same (fun content ending target hends => ?_) (substitutePiece_of_not suffix hnot)
    rw [← hends.body_eq]
    exact hnot target

/-! ## All lines -/

/-- **A source is substituted in parts**, if it is cut behind a line feed. -/
theorem substitute_append {a : Text} (h : a = [] ∨ a.getLast? = some '\n') (b : Text) :
    substitute suffix (a ++ b) = substitute suffix a ++ substitute suffix b := by
  rw [substitute, Text.pieces_append h, List.flatMap_append, substitute, substitute]

/-- **A source without directives.** -/
def Settled (source : Text) : Prop :=
  ∀ piece ∈ source.pieces, ∀ target, ¬ IsDirective (body piece) target

/-- Nothing is substituted in it. -/
theorem substitute_of_settled (h : Settled source) (suffix : Text) :
    substitute suffix source = source := by
  have hsame : source.pieces.map (substitutePiece suffix) = source.pieces := by
    conv_rhs => rw [← List.map_id source.pieces]
    exact List.map_congr_left fun piece hpiece => substitutePiece_of_not suffix (h piece hpiece)
  rw [substitute, List.flatMap_def, hsame, Text.flatten_pieces]

/-- **The substitution leaves no directive**, if its suffix is on one line. -/
theorem settled_substitute (hsuffix : '\n' ∉ suffix) (source : Text) :
    Settled (substitute suffix source) := by
  intro piece hpiece target
  rw [pieces_substitute hsuffix] at hpiece
  obtain ⟨before, -, rfl⟩ := List.mem_map.1 hpiece
  by_cases h : ∃ target, IsDirective (body before) target
  · obtain ⟨replaced, h⟩ := h
    rw [(body_substitutePiece suffix h).1]
    exact not_isDirective_placeholder replaced suffix target
  · have hnot := not_exists.1 h
    rw [substitutePiece_of_not suffix hnot]
    exact hnot target

/-- It neither adds nor removes a line. -/
theorem length_lines_substitute (hsuffix : '\n' ∉ suffix) (source : Text) :
    (substitute suffix source).lines.length = source.lines.length := by
  simp only [Text.lines, List.length_map, pieces_substitute hsuffix]

/-- **The substitution is local to lines, and it is complete.** What stands
behind a line feed is substituted on its own. A line is changed just if it is
a directive, and then it becomes the placeholder of its target and keeps its
line end; every other line stays as it is. If the suffix is on one line, there
are as many lines as before, and no second substitution changes any. -/
theorem substitute_lineByLine (suffix source : Text) :
    (∀ rest, source = [] ∨ source.getLast? = some '\n' →
        substitute suffix (source ++ rest) = substitute suffix source ++ substitute suffix rest) ∧
      (∃ after, List.Forall₂ (Becomes suffix) source.pieces after ∧
        substitute suffix source = after.flatten) ∧
      ('\n' ∉ suffix → (substitute suffix source).lines.length = source.lines.length ∧
        ∀ other, substitute other (substitute suffix source) = substitute suffix source) := by
  refine ⟨fun rest h => substitute_append h rest,
    ⟨source.pieces.map (substitutePiece suffix), ?_, List.flatMap_def⟩, fun hsuffix => ?_⟩
  · rw [List.forall₂_map_right_iff, List.forall₂_same]
    exact fun piece _ => becomes_substitutePiece suffix piece
  · exact ⟨length_lines_substitute hsuffix source,
      substitute_of_settled (settled_substitute hsuffix source)⟩

/-- A source with white space and several carriage returns behind a directive,
and with a line that opens like one only behind a carriage return. -/
def looseSource : Text :=
  "include::a/b.adoc[lines=1..2] \r\r\n\rinclude::c[]\n"

/-- Its directive and the one behind it are replaced, and that is all. -/
theorem substitute_lineByLine_looseSource :
    looseSource.getLast? = some '\n' ∧ '\n' ∉ ".md".toList ∧
      substitute ".md" (looseSource ++ "include::d.x.adoc[]".toList) =
        "<!--include:a/b.md-->\r\r\n\rinclude::c[]\n<!--include:d.x.md-->".toList ∧
      substitute ".md" (looseSource ++ "include::d.x.adoc[]".toList) =
        substitute ".md" looseSource ++ substitute ".md" "include::d.x.adoc[]" ∧
      (∃ after, List.Forall₂ (Becomes ".md") looseSource.pieces after ∧
        substitute ".md" looseSource = after.flatten) ∧
      (substitute ".md" looseSource).lines.length = 2 ∧
      substitute ".txt" (substitute ".md" looseSource) = substitute ".md" looseSource := by
  have hlast : looseSource.getLast? = some '\n' := by decide
  have hsuffix : '\n' ∉ ".md".toList := by decide
  obtain ⟨happend, hlines, hflat⟩ := substitute_lineByLine ".md" looseSource
  obtain ⟨hlength, hagain⟩ := hflat hsuffix
  exact ⟨hlast, hsuffix, by decide +kernel, happend _ (.inr hlast), hlines,
    hlength.trans (by decide), hagain ".txt"⟩

end Include

end Treedown

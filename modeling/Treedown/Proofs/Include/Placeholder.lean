import Mathlib.Data.List.Forall2
import Treedown.Proofs.Include.Extension
import Treedown.Proofs.Text.Lines
import Treedown.Proofs.Text.Trim
import Treedown.Render.Basic
/-!
# Include directives — the placeholder comes back

`substitute` writes placeholders into a source text, and a paragraph that
holds one of them is rendered as it is. The two sides know of each other by
`isMarker` alone. `IsDirective` says which lines are replaced, without a
word about how they are read, and `rewrites_substitute` that every placeholder
is recognised, whatever the target is; the paragraph may have white space
around it and any children. All other lines stay as they were.

The argument goes through pieces: the placeholder of a target is on one
line, since no white space stands in a target, so the pieces of the result
are those of the source, one by one (`pieces_substitute`).
-/

namespace Treedown

namespace Include

variable {line target suffix piece t : Text}

/-! ## Directives -/

/-- **The line is an include directive** for the target: the attributes
stand between brackets behind it, and nothing but white space behind these. -/
def IsDirective (line target : Text) : Prop :=
  target ≠ [] ∧ (∀ c ∈ target, inTarget c = true) ∧ ∃ attributes behind : Text,
    line = ("include::" : Text) ++ target ++ '[' :: attributes ++ ']' :: behind ∧
      ']' ∉ attributes ∧ behind.blank = true

/-- **These are the lines that are replaced.** -/
theorem target?_eq_some_iff : target? line = some target ↔ IsDirective line target := by
  constructor
  · intro h
    unfold target? at h
    split at h
    · cases h
    · rename_i rest hrest
      dsimp only at h
      split at h
      · cases h
      · rename_i hne
        split at h
        · rename_i attributes behind hbrackets
          split at h
          · rename_i hblank
            obtain ⟨hattributes, hcut⟩ := Text.bracketed?_eq_some_iff.1 hbrackets
            obtain rfl := Option.some.inj h
            refine ⟨fun hnil => hne (List.isEmpty_iff.2 hnil),
              fun c hc => List.mem_takeWhile_imp hc, attributes, behind, ?_, hattributes, hblank⟩
            rw [Text.after?_eq_some_iff.1 hrest, List.append_assoc, List.append_assoc, ← hcut,
              List.takeWhile_append_dropWhile]
          · cases h
        · cases h
  · rintro ⟨hne, htarget, attributes, behind, rfl, hattributes, hblank⟩
    have hbracket : inTarget '[' = false := by decide
    have hafter : Text.after? "include::" (("include::" : Text) ++ target ++ '[' :: attributes ++
        ']' :: behind) = some (target ++ '[' :: (attributes ++ ']' :: behind)) :=
      Text.after?_eq_some_iff.2 (by simp)
    have hbrackets : Text.bracketed? ('[' :: (attributes ++ ']' :: behind)) =
        some (attributes, behind) :=
      Text.bracketed?_eq_some_iff.2 ⟨hattributes, rfl⟩
    rw [target?, hafter]
    dsimp only
    rw [Text.takeWhile_run htarget hbracket, Text.dropWhile_run htarget hbracket, hbrackets,
      if_neg (by rwa [List.isEmpty_iff])]
    exact if_pos hblank

theorem target?_eq_none_iff : target? line = none ↔ ∀ target, ¬ IsDirective line target := by
  rw [Option.eq_none_iff_forall_ne_some]
  exact forall_congr' fun target => not_congr target?_eq_some_iff

/-- No white space stands in a target, and so no line feed. -/
theorem IsDirective.not_mem (h : IsDirective line target) : '\n' ∉ target := fun hmem =>
  absurd (h.2.1 _ hmem) (by decide)

/-! ## Placeholders -/

/-- **A target is cut and the suffix put behind it.** -/
theorem replaceExtension_split (target suffix : Text) :
    ∃ front, front <+: target ∧ replaceExtension target suffix = front ++ suffix := by
  obtain ⟨folder, name, hparts⟩ := exists_hasParts target
  obtain ⟨stem, dropped, hstem⟩ := exists_stem name
  exact ⟨folder ++ stem, ⟨dropped, (hparts.eq_append_append hstem).symm⟩,
    replaceExtension_eq hparts hstem suffix⟩

theorem not_mem_placeholder (hsuffix : '\n' ∉ suffix) (htarget : '\n' ∉ target) :
    '\n' ∉ replaceExtension target suffix ++ markerClose := by
  obtain ⟨front, hfront, heq⟩ := replaceExtension_split target suffix
  rw [heq]
  exact List.not_mem_append
    (List.not_mem_append (fun hmem => htarget (hfront.subset hmem)) hsuffix) (by decide)

/-- **A placeholder is recognised**, if it is on one line. -/
theorem isMarker_placeholder (hsuffix : '\n' ∉ suffix) (htarget : '\n' ∉ target) :
    isMarker (placeholder target suffix) = true := by
  have hafter : Text.after? markerOpen (placeholder target suffix) =
      some (replaceExtension target suffix ++ markerClose) :=
    Text.after?_eq_some_iff.2 (List.append_assoc _ _ _)
  rw [isMarker, hafter]
  dsimp only
  rw [Bool.and_eq_true, Bool.not_eq_true', List.isSuffixOf_iff_suffix]
  refine ⟨List.suffix_append _ _, ?_⟩
  rw [← Bool.not_eq_true, List.contains_iff_mem]
  exact not_mem_placeholder hsuffix htarget

/-- What a placeholder begins and ends with. -/
theorem placeholder_eq (target suffix : Text) :
    placeholder target suffix =
      '<' :: (("!--include:" : Text) ++ replaceExtension target suffix ++ ("--" : Text)) ++
        ['>'] := by
  have hopen : markerOpen = '<' :: ("!--include:" : Text) := rfl
  have hclose : markerClose = ("--" : Text) ++ ['>'] := rfl
  rw [placeholder, hopen, hclose, List.cons_append, List.cons_append, List.cons_append,
    List.append_assoc, List.append_assoc, List.append_assoc]

/-- A placeholder has white space at neither end. -/
theorem trim_placeholder (target suffix : Text) :
    (placeholder target suffix).trim = placeholder target suffix := by
  rw [placeholder_eq, Text.trim, List.cons_append, List.dropWhile_cons_of_neg (by decide),
    ← List.cons_append]
  exact Text.dropEndWhile_concat _ (by decide)

/-- Nor does it end like a line. -/
theorem body_placeholder_append (target suffix : Text) {ending : Text}
    (h : ∀ c ∈ ending, endsLine c = true) :
    body (placeholder target suffix ++ ending) = placeholder target suffix := by
  rw [body, Text.dropEndWhile_append_of_forall h, placeholder_eq]
  exact Text.dropEndWhile_concat _ (by decide)

/-! ## The pieces of a source -/

/-- The characters that end a piece. -/
def lineEnd (piece : Text) : Text :=
  piece.drop (body piece).length

/-- A piece is its body and its end. -/
theorem body_append_lineEnd (piece : Text) :
    body piece ++ lineEnd piece = piece ∧ ∀ c ∈ lineEnd piece, endsLine c = true := by
  obtain ⟨run, hrun, hpiece⟩ := Text.dropEndWhile_append_run endsLine piece
  have hend : lineEnd piece = run :=
    (congrArg (List.drop (body piece).length) hpiece).trans List.drop_left
  rw [hend]
  exact ⟨hpiece.symm, hrun⟩

theorem substitutePiece_of_isDirective (suffix : Text) (h : IsDirective (body piece) target) :
    substitutePiece suffix piece = placeholder target suffix ++ lineEnd piece := by
  rw [substitutePiece, target?_eq_some_iff.2 h, lineEnd]

theorem substitutePiece_of_not (suffix : Text) (h : ∀ target, ¬ IsDirective (body piece) target) :
    substitutePiece suffix piece = piece := by
  rw [substitutePiece, target?_eq_none_iff.2 h]

/-- **A directive becomes its placeholder**, with the same line end. -/
theorem body_substitutePiece (suffix : Text) (h : IsDirective (body piece) target) :
    body (substitutePiece suffix piece) = placeholder target suffix ∧
      lineEnd (substitutePiece suffix piece) = lineEnd piece := by
  have hbody := body_placeholder_append target suffix (body_append_lineEnd piece).2
  rw [substitutePiece_of_isDirective suffix h]
  refine ⟨hbody, ?_⟩
  rw [lineEnd, hbody, List.drop_left]

/-- The line feed of a piece stays where it is. -/
theorem substitutePiece_concat_newline (suffix t : Text) :
    substitutePiece suffix (t ++ ['\n']) = substitutePiece suffix t ++ ['\n'] := by
  have hbody : body (t ++ ['\n']) = body t :=
    Text.dropEndWhile_append_of_forall fun c hc => by rw [List.mem_singleton.1 hc]; decide
  have hend : lineEnd (t ++ ['\n']) = lineEnd t ++ ['\n'] := by
    rw [lineEnd, hbody]
    exact List.drop_append_of_le_length (Text.dropEndWhile_prefix_self endsLine t).length_le
  by_cases h : ∃ target, IsDirective (body t) target
  · obtain ⟨target, h⟩ := h
    rw [substitutePiece_of_isDirective suffix h, substitutePiece_of_isDirective suffix (hbody ▸ h),
      hend, List.append_assoc]
  · have hnot := not_exists.1 h
    rw [substitutePiece_of_not suffix hnot, substitutePiece_of_not suffix (hbody ▸ hnot)]

theorem not_mem_substitutePiece (hsuffix : '\n' ∉ suffix) (ht : '\n' ∉ t) :
    '\n' ∉ substitutePiece suffix t := by
  by_cases h : ∃ target, IsDirective (body t) target
  · obtain ⟨target, h⟩ := h
    have hend : lineEnd t ⊆ t := (List.drop_suffix _ t).subset
    rw [substitutePiece_of_isDirective suffix h, placeholder, List.append_assoc markerOpen]
    exact List.not_mem_append
      (List.not_mem_append (by decide) (not_mem_placeholder hsuffix h.not_mem))
      fun hmem => ht (hend hmem)
  · rwa [substitutePiece_of_not suffix (not_exists.1 h)]

theorem substitutePiece_ne_nil (ht : t ≠ []) : substitutePiece suffix t ≠ [] := by
  by_cases h : ∃ target, IsDirective (body t) target
  · obtain ⟨target, h⟩ := h
    rw [substitutePiece_of_isDirective suffix h, placeholder_eq]
    exact List.cons_ne_nil _ _
  · rwa [substitutePiece_of_not suffix (not_exists.1 h)]

theorem arePieces_map_substitutePiece (hsuffix : '\n' ∉ suffix) {ps : List Text}
    (h : Text.ArePieces ps) : Text.ArePieces (ps.map (substitutePiece suffix)) := by
  induction h with
  | nil => exact .nil
  | last hne h => exact .last (substitutePiece_ne_nil hne) (not_mem_substitutePiece hsuffix h)
  | cons h _ ih =>
    rw [List.map_cons, substitutePiece_concat_newline]
    exact .cons (not_mem_substitutePiece hsuffix h) ih

/-- **The substitution works piece by piece**, and puts no line end into any
of them. -/
theorem pieces_substitute (hsuffix : '\n' ∉ suffix) (source : Text) :
    (substitute suffix source).pieces = source.pieces.map (substitutePiece suffix) := by
  rw [substitute, List.flatMap_def]
  exact Text.pieces_flatten
    (arePieces_map_substitutePiece hsuffix (Text.arePieces_pieces source))

/-! ## Both sides -/

/-- **A paragraph that is a placeholder** is rendered as it is, ahead of image
macros and of its children. -/
theorem render_paragraph_of_isMarker (s : Render.Setting) (c : Render.Context) {f : Fields}
    (children : List Node) (hlines : f.lines = [line]) (h : isMarker line.trim = true) :
    Render.render s c (.mk (.known .paragraph) f children) = .ok line.trim := by
  have hown : Render.ownText? f.lines = some line.trim := by
    rw [hlines, Render.ownText?, Render.marker?, if_pos h, Option.some_or]
  exact Render.render_paragraph_of_ownText? s c children hown

/-- **What becomes of a piece of a source.** -/
inductive Rewrites (suffix before after : Text) : Prop
  /-- A directive becomes a placeholder, which is recognised, and a paragraph
  of which nothing else is left when it is trimmed is rendered to it. -/
  | directive {target : Text} (h : IsDirective (body before) target)
      (hbody : body after = placeholder target suffix) (hend : lineEnd after = lineEnd before)
      (hmarker : isMarker (body after) = true)
      (hparagraph : ∀ (s : Render.Setting) (c : Render.Context) (f : Fields) (children : List Node)
        (front back : Text), front.blank = true → back.blank = true →
          f.lines = [front ++ body after ++ back] →
            Render.render s c (.mk (.known .paragraph) f children) = .ok (body after))
  /-- Any other line stays as it is, so it is a placeholder only if it was
  one. -/
  | other (h : ∀ target, ¬ IsDirective (body before) target) (hsame : after = before)

/-- **Writer and reader agree on placeholders.** Line by line, what the
substitution writes for a directive is what the renderer takes for a
placeholder, and no other line becomes one. -/
theorem rewrites_substitute (source : Text) (hsuffix : '\n' ∉ suffix) :
    List.Forall₂ (Rewrites suffix) source.pieces (substitute suffix source).pieces := by
  rw [pieces_substitute hsuffix, List.forall₂_map_right_iff, List.forall₂_same]
  intro piece _
  by_cases h : ∃ target, IsDirective (body piece) target
  · obtain ⟨target, h⟩ := h
    obtain ⟨hbody, hend⟩ := body_substitutePiece suffix h
    have hmarker := isMarker_placeholder hsuffix h.not_mem
    refine .directive h hbody hend (hbody ▸ hmarker) ?_
    intro s c f children front back hfront hback hlines
    have htrim : (front ++ body (substitutePiece suffix piece) ++ back).trim =
        placeholder target suffix := by
      rw [hbody, Text.trim_append_append hfront hback (trim_placeholder target suffix)]
    rw [render_paragraph_of_isMarker s c children hlines (htrim ▸ hmarker), htrim, hbody]
  · exact .other (not_exists.1 h) (substitutePiece_of_not suffix (not_exists.1 h))

/-- A source that includes a file whose name looks like a macro and like the
end of a comment, with a line that is a placeholder already. -/
def oddSource : Text :=
  "include::a/image:x-->.b.adoc[leveloffset=1] \r\n<!--include:c-->\nSee include::d[]"

theorem rewrites_substitute_oddSource :
    '\n' ∉ ".md".toList ∧
      substitute ".md" oddSource =
        "<!--include:a/image:x-->.b.md-->\r\n<!--include:c-->\nSee include::d[]".toList ∧
      List.Forall₂ (Rewrites ".md") oddSource.pieces (substitute ".md" oddSource).pieces :=
  ⟨by decide, by decide +kernel, rewrites_substitute oddSource (by decide)⟩

end Include

end Treedown

import Mathlib.Data.List.Forall2
import Treedown.Proofs.Markup.Parameter
import Treedown.Proofs.Markup.Scanning
import Treedown.Render.Basic
/-!
# Rendering — image macros in a paragraph

A macro that is put into the text of a paragraph says the same as an inline
image with its parameters. The scanner finds the macro at its place, whatever
text stands around it, and its parameters are read as the values that were
written. `render_paragraph_insertions` puts both together: the paragraph is
the text with the rendering of an inline image in the place of each macro.
-/

namespace Treedown

namespace Markup

/-! ## Macros put into a text -/

/-- **A macro that is put into a text**, with the text in front of it. The
source is not empty, holds neither white space nor an opening bracket and
does not begin with a colon. -/
structure Insertion where
  front : Text
  /-- Whether the colon is doubled. -/
  doubled : Bool
  source : Text
  parameters : List Parameter
  noMark : ¬ macroMark <:+: front
  noWord : front.getLast?.any isWord = false
  source_ne_nil : source ≠ []
  inSource_of_mem : ∀ c ∈ source, inSource c = true
  noColon : source.head? ≠ some ':'

namespace Insertion

/-- The macro as it is written. -/
def spelling (i : Insertion) : Text :=
  macroMark ++ ((if i.doubled then [':'] else []) ++
    (i.source ++ '[' :: writtenAll i.parameters ++ [']']))

/-- **The inline image that the macro stands for**: its target is the source,
and the parameters are written into its attributes one by one. -/
def node (i : Insertion) : Node :=
  Parameter.put ((Node.ofKind (.known .inlineImage)).withTarget i.source) 1 i.parameters

/-- The macro as the scanner finds it. -/
def placed (i : Insertion) : Placed where
  front := i.front
  found := ⟨i.source, writtenAll i.parameters⟩
  spelling := i.spelling
  noMark := i.noMark
  noWord := i.noWord
  spelledBy := by
    refine ⟨if i.doubled then [':'] else [], ?_, i.source_ne_nil, i.inSource_of_mem, i.noColon,
      not_mem_writtenAll i.parameters, rfl⟩
    cases i.doubled
    · exact .inl rfl
    · exact .inr rfl

end Insertion

end Markup

namespace Render

open Markup

/-! ## Paragraphs -/

/-- **A macro is the picture of its inline image.** -/
theorem render_node (s : Setting) (c : Context) (i : Insertion) :
    render s c i.node = .ok i.placed.found.render := by
  have hnode : i.node = .mk (.known .inlineImage)
      { Fields.empty with
        target := some i.source
        attributes := readParameters .empty 1 (i.parameters.map Parameter.written) } [] :=
    put_eq_readParameters i.parameters _ _ _ 1
  rw [hnode, PictureMacro.render, Insertion.placed, pictureOf_writtenAll]
  rfl

/-- **The macros of a paragraph come to what inline images come to.** Where
the lines of a paragraph are text with macros in it, and are no placeholder,
the paragraph is that text with the rendering of an inline image in the place
of each macro, whatever its children are. -/
theorem render_paragraph_insertions (s : Setting) (c : Context) {f : Fields} (children : List Node)
    {parts : List Insertion} {last : Text} (hparts : parts ≠ []) (hlast : ¬ macroMark <:+: last)
    (hlines : Text.unlines f.lines = parts.flatMap (fun i => i.front ++ i.spelling) ++ last)
    (hmarker : ∀ line, f.lines = [line] → Include.isMarker line.trim = false) :
    ∃ pictures : List Text,
      List.Forall₂ (fun i picture => ∀ s c, render s c (Insertion.node i) = .ok picture)
        parts pictures ∧
      render s c (.mk (.known .paragraph) f children) =
        .ok ((List.zipWith (fun i picture => i.front ++ picture) parts pictures).flatten ++
          last) := by
  refine ⟨parts.map fun i => i.placed.found.render, ?_, ?_⟩
  · rw [List.forall₂_map_right_iff, List.forall₂_same]
    intro i _ s c
    exact render_node s c i
  · have hnone : marker? f.lines = none := by
      unfold marker?
      split
      · rename_i line hline
        rw [hmarker line hline]
        rfl
      · rfl
    -- the same text, as the scanner sees it
    have hplaced : Text.unlines f.lines =
        (parts.map Insertion.placed).flatMap Placed.written ++ last := by
      rw [hlines, List.flatMap_map]
      rfl
    have hown : ownText? f.lines =
        some (parts.flatMap (fun i => i.front ++ i.placed.found.render) ++ last) := by
      rw [ownText?, hnone, Option.none_or, hplaced,
        replaceMacros_flatMap_written (mt List.map_eq_nil_iff.1 hparts) hlast, List.flatMap_map]
      rfl
    rw [render_paragraph_of_ownText? s c children hown, List.zipWith_map_right, List.zipWith_self,
      List.flatMap_def]

/-! Two macros without a space between them, in brackets. The first has a
value in quotes with an equality sign, an empty one and a named one; the
parameters of the second go on in the next line. -/

/-- A picture with a quoted text, an empty width and a height. -/
def quotedInsertion : Insertion where
  front := "("
  doubled := false
  source := "a.png"
  parameters := [.positional (.quoted '"' "A=b" (by decide) (by decide))
      (.inl ⟨'"', "A=b", by decide, rfl⟩),
    .positional (.bare [] rfl not_inQuotes_nil (by decide))
      (.inr (not_readsNamed_of_not_mem (by decide))),
    .named "height" (.quoted '\'' "20 " (by decide) (by decide)) (by decide)]
  noMark := by decide
  noWord := by decide
  source_ne_nil := by decide
  inSource_of_mem := List.all_eq_true.1 rfl
  noColon := by decide

/-- A picture with a text on two lines and a width. -/
def brokenInsertion : Insertion where
  front := []
  doubled := true
  source := "b.png"
  parameters := [.positional
      (.bare "x\ny" (by decide) (not_inQuotes_cons (by decide) _) (by decide))
      (.inr (not_readsNamed_of_not_mem (by decide))),
    .named "width" (.bare "5%" (by decide) (not_inQuotes_cons (by decide) _) (by decide))
      (by decide)]
  noMark := by decide
  noWord := by decide
  source_ne_nil := by decide
  inSource_of_mem := List.all_eq_true.1 rfl
  noColon := by decide

/-- A paragraph with both of them, on two lines. -/
def bracketedPictures : Fields :=
  { Fields.empty with
    lines := ["(image:a.png[\"A=b\",,height='20 ']image::b.png[x", "y,width=5%]) end"] }

theorem render_paragraph_insertions_bracketed :
    [quotedInsertion, brokenInsertion] ≠ [] ∧ (¬ macroMark <:+: ") end".toList) ∧
      Text.unlines bracketedPictures.lines =
        [quotedInsertion, brokenInsertion].flatMap (fun i => i.front ++ i.spelling) ++
          ") end".toList ∧
      (∀ line, bracketedPictures.lines = [line] → Include.isMarker line.trim = false) ∧
      ∃ pictures : List Text,
        List.Forall₂ (fun i picture => ∀ s c, render s c (Insertion.node i) = .ok picture)
          [quotedInsertion, brokenInsertion] pictures ∧
        render ⟨.standard, .empty⟩ (.ofRoot .empty)
            (.mk (.known .paragraph) bracketedPictures []) =
          .ok ((List.zipWith (fun i picture => i.front ++ picture)
            [quotedInsertion, brokenInsertion] pictures).flatten ++ ") end".toList) := by
  have hlast : ¬ macroMark <:+: ") end".toList := by decide
  have hlines : Text.unlines bracketedPictures.lines =
      [quotedInsertion, brokenInsertion].flatMap (fun i => i.front ++ i.spelling) ++
        ") end".toList := by decide
  have hmarker : ∀ line, bracketedPictures.lines = [line] → Include.isMarker line.trim = false := by
    intro line hline
    cases hline
  exact ⟨List.cons_ne_nil _ _, hlast, hlines, hmarker,
    render_paragraph_insertions ⟨.standard, .empty⟩ (.ofRoot .empty) []
      (List.cons_ne_nil _ _) hlast hlines hmarker⟩

example : render ⟨.standard, .empty⟩ (.ofRoot .empty)
    (.mk (.known .paragraph) bracketedPictures []) =
      .ok ("(<!-- style:h20 -->![A=b](a.png)<!-- style:w5percent -->" ++
        "![x\ny](b.png)) end").toList := by
  decide +kernel

end Render

end Treedown

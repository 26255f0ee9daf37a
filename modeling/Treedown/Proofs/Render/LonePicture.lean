import Treedown.Proofs.Markup.Scanning
import Treedown.Proofs.Render.Flattening
/-!
# Rendering — the picture at the end of a document

A document whose last block is a paragraph of one line, and that line one
image macro, ends in a line feed. Whether a line is one image macro is
decided without taking it apart (`isStandalone`), and differently from the
way in which macros are found in a text: the colons between `image:` and the
parameters are not looked at. So the two agree on all lines but those whose
macro lacks a source (`LacksSource`), where colons stand in its place. Such a
line counts as a picture, and no macro is found in it
(`isStandalone_and_addsNewline`).
-/

namespace Treedown

namespace Markup

variable {line t : Text}

/-! ## One macro -/

/-- **A text is one whole macro**: taking it apart leaves one macro and
nothing else. -/
def IsOneMacro (t : Text) : Prop :=
  ∃ m, segments false t = [.picture m]

/-- **The macro lacks its source**: behind the second colon another one
stands, or the parameters. -/
def LacksSource (t : Text) : Prop :=
  ∃ more inner : Text, (∀ c ∈ more, inSource c = true) ∧ (more = [] ∨ more.head? = some ':') ∧
    ']' ∉ inner ∧ t = "image::".toList ++ (more ++ '[' :: inner ++ [']'])

theorem segments_ne_nil (inWord : Bool) (h : t ≠ []) : segments inWord t ≠ [] := by
  cases t with
  | nil => exact absurd rfl h
  | cons c rest =>
    rw [segments]
    split
    · exact List.cons_ne_nil _ _
    · exact List.cons_ne_nil _ _

/-- One whole macro is a text that is spelled as one. -/
theorem isOneMacro_iff : IsOneMacro t ↔ ∃ m : PictureMacro, m.SpelledBy t := by
  constructor
  · rintro ⟨m, hm⟩
    cases hmacro : macroAt? t with
    | none =>
      cases t with
      | nil =>
        rw [segments] at hm
        cases hm
      | cons c rest =>
        rw [segments_cons_char false hmacro] at hm
        cases hm
    | some found =>
      obtain ⟨m', behind⟩ := found
      rw [segments_of_macroAt? hmacro, List.cons.injEq] at hm
      have hnil : behind = [] := by
        by_contra hne
        exact segments_ne_nil false hne hm.2
      obtain ⟨spelling, hspelled, ht⟩ := macroAt?_eq_some_iff.1 hmacro
      rw [hnil, List.append_nil] at ht
      exact ⟨m', ht ▸ hspelled⟩
  · rintro ⟨m, hm⟩
    have hmacro : macroAt? t = some (m, []) :=
      macroAt?_eq_some_iff.2 ⟨t, hm, (List.append_nil t).symm⟩
    refine ⟨m, ?_⟩
    rw [segments_of_macroAt? hmacro, segments]

/-- No macro is found where the source is lacking. -/
theorem macroAt?_of_lacksSource (h : LacksSource t) : macroAt? t = none := by
  obtain ⟨more, inner, hmore, hhead, -, rfl⟩ := h
  have hafter : Text.after? "image:" ("image::".toList ++ (more ++ '[' :: inner ++ [']'])) =
      some (':' :: (more ++ '[' :: inner ++ [']'])) :=
    Text.after?_eq_some_iff.2 rfl
  have hrun : (dropColon (':' :: (more ++ '[' :: inner ++ [']']))).takeWhile inSource = more := by
    rw [dropColon, List.append_assoc]
    exact Text.takeWhile_run hmore inSource_bracket
  rw [macroAt?, hafter]
  simp only [hrun]
  rw [if_pos]
  simpa [List.isEmpty_iff] using hhead

theorem not_isOneMacro_of_lacksSource (h : LacksSource t) : ¬ IsOneMacro t := by
  intro hone
  obtain ⟨m, hm⟩ := isOneMacro_iff.1 hone
  have hmacro : macroAt? t = some (m, []) :=
    macroAt?_eq_some_iff.2 ⟨t, hm, (List.append_nil t).symm⟩
  rw [macroAt?_of_lacksSource h] at hmacro
  cases hmacro

/-! ## Lines that stand alone -/

/-- **The two ways of looking at a line** agree but for a source that is
lacking. -/
theorem isStandalone_iff_isOneMacro_or :
    isStandalone line = true ↔ IsOneMacro line.trim ∨ LacksSource line.trim := by
  rw [isStandalone_eq_true_iff, isOneMacro_iff]
  constructor
  · rintro ⟨target, inner, hne, htarget, hinner, hline⟩
    -- a colon in front of the target may be the second one of the macro
    by_cases hcolon : target.head? = some ':'
    · obtain ⟨more, rfl⟩ := List.head?_eq_some_iff.1 hcolon
      have hmore : ∀ c ∈ more, inSource c = true := fun c hc =>
        htarget c (List.mem_cons_of_mem _ hc)
      by_cases hlack : more = [] ∨ more.head? = some ':'
      · exact .inr ⟨more, inner, hmore, hlack, hinner, hline⟩
      · rw [not_or] at hlack
        exact .inl ⟨⟨more, inner⟩, [':'], .inr rfl, hlack.1, hmore, hlack.2, hinner, hline⟩
    · exact .inl ⟨⟨target, inner⟩, [], .inl rfl, hne, htarget, hcolon, hinner, hline⟩
  · rintro (⟨m, colon, hcolon, hne, hsource, -, hinner, hline⟩ |
      ⟨more, inner, hmore, -, hinner, hline⟩)
    · refine ⟨colon ++ m.source, m.parameters, by simp [hne], ?_, hinner, ?_⟩
      · intro c hc
        rcases List.mem_append.1 hc with hc | hc
        · rcases hcolon with rfl | rfl
          · cases hc
          · rw [List.mem_singleton.1 hc]
            decide
        · exact hsource c hc
      · rw [hline, List.append_assoc, List.append_assoc, List.append_assoc]
    · refine ⟨':' :: more, inner, List.cons_ne_nil _ _, ?_, hinner, hline⟩
      intro c hc
      rcases List.mem_cons.1 hc with rfl | hc
      · decide
      · exact hmore c hc

end Markup

namespace Render

open Markup

/-! ## The end of a document -/

/-- **A block is rendered as one picture**, with the white space that stands
around the macro in its line. -/
def IsPicture (s : Setting) (c : Context) (block : Node) (line : Text) : Prop :=
  ∃ (m : PictureMacro) (front back : Text), m.SpelledBy line.trim ∧ front.blank = true ∧
    back.blank = true ∧ line = front ++ line.trim ++ back ∧
      render s c block = .ok (front ++ m.render ++ back)

/-- **A document gets a line feed** behind its blocks. -/
def AddsNewline (s : Setting) (f : Fields) (children : List Node) : Prop :=
  ∃ texts, Rendered.texts (annotateAll s ((Context.ofRoot f).within (.known .document))
      (opening f children).2) = .ok texts ∧
    renderTree s (.mk (.known .document) f children) =
      .ok (joinBlocks (((opening f children).1.map setextHeading).toList ++ texts) ++ ['\n'])

/-- A macro is no placeholder. -/
theorem isMarker_of_spelledBy {m : PictureMacro} {t : Text} (h : m.SpelledBy t) :
    Include.isMarker t = false := by
  obtain ⟨colon, -, -, -, -, -, rfl⟩ := h
  rfl

/-- **A paragraph of one macro is one picture**, whatever its children are. -/
theorem isPicture_of_isOneMacro (s : Setting) (c : Context) {f : Fields} (children : List Node)
    {line : Text} (hlines : f.lines = [line]) (h : IsOneMacro line.trim) :
    IsPicture s c (.mk (.known .paragraph) f children) line := by
  obtain ⟨m, hm⟩ := isOneMacro_iff.1 h
  obtain ⟨front, back, hfront, hback, hline⟩ := Text.exists_eq_append_trim_append line
  refine ⟨m, front, back, hm, hfront, hback, hline, ?_⟩
  have hnone : marker? f.lines = none := by
    rw [hlines, marker?, isMarker_of_spelledBy hm]
    rfl
  have hreplaced : replaceMacros (Text.unlines f.lines) = some (front ++ m.render ++ back) := by
    rw [hlines, Text.unlines, List.intercalate_singleton, hline]
    exact replaceMacros_of_spelledBy hm hfront hback
  have hown : ownText? f.lines = some (front ++ m.render ++ back) := by
    rw [ownText?, hnone, Option.none_or, hreplaced]
  exact render_paragraph_of_ownText? s c children hown

/-- A line feed is added just where the last block counts as a picture. -/
theorem endsInPicture_of_addsNewline {s : Setting} {f : Fields} {children : List Node}
    (h : AddsNewline s f children) : endsInPicture (opening f children).2 = true := by
  obtain ⟨texts, htexts, hrender⟩ := h
  rw [renderTree_eq_of_opening, htexts] at hrender
  have htail := List.append_cancel_left (Except.ok.inj hrender)
  by_contra hnot
  rw [if_neg hnot] at htail
  cases htail

/-- What lacks its source is rendered as no picture. -/
theorem not_isPicture_of_lacksSource {s : Setting} {c : Context} {block : Node} {line : Text}
    (h : LacksSource line.trim) : ¬ IsPicture s c block line := by
  rintro ⟨m, -, -, hm, -⟩
  exact not_isOneMacro_of_lacksSource h (isOneMacro_iff.2 ⟨m, hm⟩)

/-- **A picture and a line feed.** A line counts as a picture just where it is
one whole macro, unless it lacks its source. And where a document gets a line
feed behind its blocks, the last of them is a paragraph of one line, and it
is rendered as one picture just where that line does not lack its source. -/
theorem isStandalone_and_addsNewline (line : Text) (s : Setting) (f : Fields)
    (children : List Node) :
    ((isStandalone line = true ↔ IsOneMacro line.trim) ↔ ¬ LacksSource line.trim) ∧
      (AddsNewline s f children → ∃ block lone, (opening f children).2.getLast? = some block ∧
        block.kind = .known .paragraph ∧ block.fields.lines = [lone] ∧
        (IsPicture s ((Context.ofRoot f).within (.known .document)) block lone ↔
          ¬ LacksSource lone.trim)) := by
  constructor
  · rw [isStandalone_iff_isOneMacro_or]
    constructor
    · intro hagree hlacks
      exact not_isOneMacro_of_lacksSource hlacks (hagree.1 (.inr hlacks))
    · intro hnot
      exact or_iff_left hnot
  · intro hadds
    obtain ⟨block, lone, hlast, hkind, hlines, hlone⟩ :=
      endsInPicture_eq_true_iff.1 (endsInPicture_of_addsNewline hadds)
    refine ⟨block, lone, hlast, hkind, hlines, fun hpicture hlacks => ?_, fun hnot => ?_⟩
    · exact not_isPicture_of_lacksSource hlacks hpicture
    · have hone : IsOneMacro lone.trim :=
        (isStandalone_iff_isOneMacro_or.1 hlone).resolve_right hnot
      obtain ⟨kind, fields, below⟩ := block
      obtain rfl : kind = .known .paragraph := hkind
      exact isPicture_of_isOneMacro s _ below hlines hone

/-- A paragraph of one line, whose macro has two colons and no source. -/
def sourceless : Node :=
  (Node.ofKind (.known .paragraph)).addLines ["image::[Sunset]"]

/-- **A line without a macro that counts as a picture.** The line is written
as it is, and a line feed is put behind it. -/
theorem isStandalone_sourceless :
    isStandalone "image::[Sunset]" = true ∧ ¬ IsOneMacro (Text.trim "image::[Sunset]") ∧
      AddsNewline ⟨.standard, .empty⟩ .empty [sourceless] ∧
      ¬ IsPicture ⟨.standard, .empty⟩ ((Context.ofRoot .empty).within (.known .document))
        sourceless "image::[Sunset]" ∧
      renderTree ⟨.standard, .empty⟩ (.mk (.known .document) .empty [sourceless]) =
        .ok "image::[Sunset]\n".toList := by
  have hlacks : LacksSource (Text.trim "image::[Sunset]") :=
    ⟨[], "Sunset", by simp, .inl rfl, by decide, by decide⟩
  exact ⟨by decide, not_isOneMacro_of_lacksSource hlacks,
    ⟨["image::[Sunset]"], by decide +kernel, by decide +kernel⟩,
    not_isPicture_of_lacksSource hlacks, by decide +kernel⟩

end Render

end Treedown

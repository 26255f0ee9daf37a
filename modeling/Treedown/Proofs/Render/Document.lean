import Treedown.Proofs.Markup.Picture
import Treedown.Proofs.Render.Flattening
/-!
# Rendering — what a document is written as

The text of a document, character by character but for the blocks that are
no sections and no preambles. Rules say which title a document opens with
and over which blocks (`Opens`), what a piece is written as
(`Piece.Writes`) and what stands behind the last one (`EndsWith`). A document
comes to a text just where these rules give it (`renderTree_document`).
-/

namespace Treedown

namespace Render

open Markup

variable {s : Setting} {root f : Fields} {children blocks : List Node} {title id t : Text}

/-! ## The title and the blocks -/

/-- **A title is shown** if it is there and not blank. -/
def ShowsTitle (f : Fields) (title : Text) : Prop :=
  f.title = some title ∧ ∃ c ∈ title, isBlank c = false

/-- **A document opens** with a title, or with none, over some blocks. -/
inductive Opens (f : Fields) : List Node → Option Text → List Node → Prop
  /-- Under its own title all children stand but the headers. -/
  | own {title : Text} {children : List Node} (htitle : ShowsTitle f title) :
      Opens f children (some title) (withoutHeaders children)
  /-- Where it has none, that of a leading section is taken, and the children
  of the section stand in its place. -/
  | promoted {title : Text} {first : Node} {rest : List Node} (hown : ∀ t, ¬ ShowsTitle f t)
      (hfirst : first.kind = .known .section) (htitle : ShowsTitle first.fields title) :
      Opens f (first :: rest) (some title) (withoutHeaders (first.children ++ rest))
  /-- Without any title no child is left out. -/
  | untitled {children : List Node} (hown : ∀ t, ¬ ShowsTitle f t)
      (hfirst : ∀ first ∈ children.head?, first.kind = .known .section →
        ∀ t, ¬ ShowsTitle first.fields t) :
      Opens f children none children

theorem unlessBlank_eq_some_iff : Text.unlessBlank f.title = some title ↔ ShowsTitle f title := by
  rw [Text.unlessBlank, Option.filter_eq_some_iff, ShowsTitle]
  refine and_congr_right fun _ => ?_
  rw [Bool.not_eq_true', ← Bool.not_eq_true, Text.blank_iff]
  simp

theorem unlessBlank_eq_none_iff :
    Text.unlessBlank f.title = none ↔ ∀ t, ¬ ShowsTitle f t := by
  rw [Option.eq_none_iff_forall_ne_some]
  exact forall_congr' fun t => not_congr unlessBlank_eq_some_iff

theorem isTitledSection_iff {node : Node} : isTitledSection node = true ↔
    node.kind = .known .section ∧ ∃ t, ShowsTitle node.fields t := by
  rw [isTitledSection, Bool.and_eq_true, decide_eq_true_eq, Option.isSome_iff_exists]
  exact and_congr_right fun _ => exists_congr fun t => unlessBlank_eq_some_iff

theorem opening_of_opens {shown : Option Text} (h : Opens f children shown blocks) :
    opening f children = (shown, blocks) := by
  cases h with
  | own htitle => simp only [opening, unlessBlank_eq_some_iff.2 htitle]
  | @promoted title first rest hown hfirst htitle =>
    have hsection : isTitledSection first = true := isTitledSection_iff.2 ⟨hfirst, title, htitle⟩
    simp only [opening, unlessBlank_eq_none_iff.2 hown, if_pos hsection,
      unlessBlank_eq_some_iff.2 htitle]
  | untitled hown hfirst =>
    cases children with
    | nil => simp only [opening, unlessBlank_eq_none_iff.2 hown]
    | cons first rest =>
      have hsection : ¬ isTitledSection first = true := fun h => by
        obtain ⟨hkind, t, ht⟩ := isTitledSection_iff.1 h
        exact hfirst first rfl hkind t ht
      simp only [opening, unlessBlank_eq_none_iff.2 hown, if_neg hsection]

/-- Every document opens in one of the three ways. -/
theorem exists_opens (f : Fields) (children : List Node) :
    ∃ title blocks, Opens f children title blocks := by
  by_cases hown : ∃ t, ShowsTitle f t
  · obtain ⟨t, ht⟩ := hown
    exact ⟨_, _, .own ht⟩
  rw [not_exists] at hown
  by_cases hsection : ∃ first ∈ children.head?, first.kind = .known .section ∧
      ∃ t, ShowsTitle first.fields t
  · obtain ⟨first, hhead, hfirst, t, ht⟩ := hsection
    obtain ⟨rest, rfl⟩ := List.head?_eq_some_iff.1 hhead
    exact ⟨_, _, .promoted hown hfirst ht⟩
  · exact ⟨_, _, .untitled hown fun first hhead hfirst t ht =>
      hsection ⟨first, hhead, hfirst, t, ht⟩⟩

theorem opens_opening (f : Fields) (children : List Node) :
    Opens f children (opening f children).1 (opening f children).2 := by
  obtain ⟨title, blocks, h⟩ := exists_opens f children
  rwa [opening_of_opens h]

/-! ## The pieces -/

/-- What generated identifiers start with. -/
def generatedPrefix (s : Setting) (root : Fields) : Text :=
  (root.attribute? "idprefix").getD s.options.idPrefix

/-- **A section keeps its identifier** if it was chosen: it stands among the
attributes, or it does not start as generated ones do. Where these start with
nothing, only the former counts. -/
def KeepsId (s : Setting) (root f : Fields) (id : Text) : Prop :=
  f.id = some id ∧ (f.attribute? "id" ≠ none ∨
    generatedPrefix s root ≠ [] ∧ ¬ generatedPrefix s root <+: id)

/-- **What a piece of a document is written as.** -/
inductive Piece.Writes (s : Setting) (root : Fields) : Piece → Text → Prop
  /-- A heading is a number sign for each level, a space and the title. -/
  | heading {f : Fields} (hid : ∀ id, ¬ KeepsId s root f id) :
      Piece.Writes s root (.heading f)
        (List.replicate (max f.level.toNat 1) '#' ++ ' ' :: f.title.getD [])
  /-- An identifier that is kept stands in a comment on the line above. -/
  | keptHeading {f : Fields} {id : Text} (hid : KeepsId s root f id) :
      Piece.Writes s root (.heading f)
        (("<!-- #" : Text) ++ id ++ (" -->\n" : Text) ++
          (List.replicate (max f.level.toNat 1) '#' ++ ' ' :: f.title.getD []))
  /-- A block is what it is rendered to. -/
  | block {node : Node} {t : Text}
      (ht : render s ((Context.ofRoot root).within (.known .document)) node = .ok t) :
      Piece.Writes s root (.block node) t

theorem isChosenId_iff (hid : f.id = some id) :
    isChosenId s.options ((Context.ofRoot root).within (.known .document)) f id = true ↔
      KeepsId s root f id := by
  have hprefix : ((Context.ofRoot root).within (.known .document)).idPrefix.getD
      s.options.idPrefix = generatedPrefix s root := rfl
  simp only [isChosenId, hprefix, KeepsId, hid, true_and, Bool.or_eq_true, Bool.and_eq_true,
    Bool.not_eq_true', ← Bool.not_eq_true, List.isEmpty_iff, List.isPrefixOf_iff_prefix, ne_eq,
    Attributes.contains, Fields.attribute?, Option.isSome_iff_ne_none]

theorem idLine_of_keepsId (h : KeepsId s root f id) :
    idLine s.options ((Context.ofRoot root).within (.known .document)) f =
      ("<!-- #" : Text) ++ id ++ (" -->\n" : Text) := by
  have hend : (" -->" : Text) ++ ['\n'] = (" -->\n" : Text) := by decide
  rw [idLine, h.1]
  simp only [if_pos ((isChosenId_iff h.1).2 h)]
  calc
    _ = ("<!-- #" : Text) ++ id ++ (" -->" : Text) ++ ['\n'] := rfl
    _ = _ := by rw [List.append_assoc, hend]

theorem idLine_of_not_keepsId (h : ∀ id, ¬ KeepsId s root f id) :
    idLine s.options ((Context.ofRoot root).within (.known .document)) f = [] := by
  rw [idLine]
  cases hid : f.id with
  | none => rfl
  | some id => exact if_neg fun hchosen => h id ((isChosenId_iff hid).1 hchosen)

/-- **The text of a piece is what the rules give.** -/
theorem Piece.writes_iff {piece : Piece} : Piece.Writes s root piece t ↔
    piece.text s ((Context.ofRoot root).within (.known .document)) = .ok t := by
  constructor
  · intro h
    cases h with
    | heading hid => rw [Piece.text, idLine_of_not_keepsId hid, List.nil_append]
    | keptHeading hid => rw [Piece.text, idLine_of_keepsId hid, List.append_assoc _ _ (' ' :: _)]
    | block ht => exact ht
  · intro h
    cases piece with
    | block node => exact .block h
    | heading f =>
      obtain rfl := Except.ok.inj h
      rw [List.append_assoc]
      by_cases hid : ∃ id, KeepsId s root f id
      · obtain ⟨id, hid⟩ := hid
        rw [idLine_of_keepsId hid]
        exact .keptHeading hid
      · rw [not_exists] at hid
        rw [idLine_of_not_keepsId hid]
        exact .heading hid

theorem pieceTexts_eq_ok_iff {pieces : List Piece} {texts : List Text} :
    pieceTexts s ((Context.ofRoot root).within (.known .document)) pieces = .ok texts ↔
      List.Forall₂ (Piece.Writes s root) pieces texts := by
  rw [pieceTexts, mapM_eq_ok_iff]
  exact ⟨List.Forall₂.imp fun _ _ => Piece.writes_iff.2,
    List.Forall₂.imp fun _ _ => Piece.writes_iff.1⟩

/-! ## The end -/

/-- **What stands behind the last block.** -/
inductive EndsWith (blocks : List Node) : Text → Prop
  /-- A line feed, if the block is a paragraph whose only line stands alone. -/
  | picture {last : Node} {line : Text} (hlast : blocks.getLast? = some last)
      (hkind : last.kind = .known .paragraph) (hlines : last.fields.lines = [line])
      (hline : StandsAlone line) : EndsWith blocks ['\n']
  /-- Nothing behind any other block. -/
  | other (h : ∀ last line, blocks.getLast? = some last → last.kind = .known .paragraph →
      last.fields.lines = [line] → ¬ StandsAlone line) : EndsWith blocks []

theorem endsWith_iff {ending : Text} :
    EndsWith blocks ending ↔ (if endsInPicture blocks then ['\n'] else []) = ending := by
  by_cases hpicture : endsInPicture blocks = true
  · rw [if_pos hpicture]
    obtain ⟨last, line, hlast, hkind, hlines, hline⟩ := endsInPicture_eq_true_iff.1 hpicture
    rw [isStandalone_iff_standsAlone] at hline
    constructor
    · rintro (_ | h)
      · rfl
      · exact absurd hline (h last line hlast hkind hlines)
    · rintro rfl
      exact .picture hlast hkind hlines hline
  · rw [if_neg hpicture]
    have hother : ∀ last line, blocks.getLast? = some last → last.kind = .known .paragraph →
        last.fields.lines = [line] → ¬ StandsAlone line := fun last line hlast hkind hlines hline =>
      hpicture (endsInPicture_eq_true_iff.2
        ⟨last, line, hlast, hkind, hlines, isStandalone_iff_standsAlone.2 hline⟩)
    constructor
    · rintro (⟨hlast, hkind, hlines, hline⟩ | _)
      · exact absurd hline (hother _ _ hlast hkind hlines)
      · rfl
    · rintro rfl
      exact .other hother

/-! ## Documents -/

/-- The heading of a document is not empty, so a join keeps it. -/
theorem joinBlocks_setextHeading (title : Option Text) (texts : List Text) :
    joinBlocks ((title.map setextHeading).toList ++ texts) =
      ("\n\n" : Text).intercalate
        ((title.map fun t => t ++ '\n' :: List.replicate t.length '=').toList ++
          texts.filter fun t => !t.isEmpty) := by
  rw [joinBlocks, List.filter_append]
  cases title with
  | none => rfl
  | some title =>
    have hheading : setextHeading title = title ++ '\n' :: List.replicate title.length '=' := by
      rw [setextHeading, List.append_assoc, List.singleton_append]
    have hkeep : [setextHeading title].filter (fun t => !t.isEmpty) = [setextHeading title] := by
      simp [setextHeading]
    rw [Option.map_some, Option.map_some, Option.toList_some, Option.toList_some, hkeep, hheading]

/-- **A document is its pieces with one blank line between them.** The title
stands in front with an equals sign under each of its characters, then the
headings and blocks in pre-order, however deep they stand. Those of which
nothing is left are left out, and behind a picture at the end there is one
line feed. A document comes to a text just when all its blocks do, and to no
other one. -/
theorem renderTree_document (s : Setting) (f : Fields) (children : List Node) (out : Text) :
    renderTree s (.mk (.known .document) f children) = .ok out ↔
      ∃ title blocks texts ending, Opens f children title blocks ∧
        List.Forall₂ (Piece.Writes s f) (piecesAll blocks) texts ∧ EndsWith blocks ending ∧
        out = ("\n\n" : Text).intercalate
          ((title.map fun t => t ++ '\n' :: List.replicate t.length '=').toList ++
            texts.filter fun t => !t.isEmpty) ++ ending := by
  rw [renderTree_eq_pieces]
  constructor
  · intro h
    cases htexts : pieceTexts s ((Context.ofRoot f).within (.known .document))
        (piecesAll (opening f children).2) with
    | error m => rw [htexts] at h; cases h
    | ok texts =>
      rw [htexts] at h
      refine ⟨_, _, texts, _, opens_opening f children, pieceTexts_eq_ok_iff.1 htexts,
        endsWith_iff.2 rfl, ?_⟩
      rw [← joinBlocks_setextHeading]
      exact (Except.ok.inj h).symm
  · rintro ⟨title, blocks, texts, ending, hopens, htexts, hending, rfl⟩
    rw [opening_of_opens hopens, pieceTexts_eq_ok_iff.2 htexts, ← endsWith_iff.1 hending,
      ← joinBlocks_setextHeading]
    rfl

/-- The title of a guide. -/
def guideFields : Fields :=
  { Fields.empty with title := some "Guide" }

/-- A header, a preamble and two sections one in the other, of which only the
outer one was named by its author, and a picture at the end. -/
def guideChildren : List Node :=
  [(Node.ofKind (.known .header)).withTitle "Guide",
    (Node.ofKind (.known .preamble)).addChildren
      [.ofKind (.known .pageBreak), .ofKind (.known .thematicBreak)],
    (((Node.ofKind (.known .section)).withId "setup").withTitle "Setup").addChildren
      [((((Node.ofKind (.known .section)).withId "_disk").withTitle "Disk").withLevel 2).addChildren
        [.ofKind (.known .preamble), .ofKind (.known .thematicBreak)]],
    (Node.ofKind (.known .paragraph)).addLines ["image:a.png[A]"]]

/-- **A titled document with an identifier that is kept.** The header is left
out, the page break leaves no gap, and nor does the empty preamble. -/
theorem renderTree_guide :
    renderTree ⟨.standard, .empty⟩ (.mk (.known .document) guideFields guideChildren) =
      .ok ("Guide\n=====\n\n---\n\n<!-- #setup -->\n# Setup\n\n## Disk\n\n---\n\n" ++
        "![A](a.png)\n").toList := by
  have hopens : Opens guideFields guideChildren (some "Guide") (guideChildren.drop 1) :=
    .own ⟨rfl, 'G', by decide, by decide⟩
  have hsetup : KeepsId ⟨.standard, .empty⟩ guideFields
      { Fields.empty with id := some "setup", title := some "Setup" } "setup" :=
    ⟨rfl, .inr ⟨by decide, by decide⟩⟩
  have hdisk : ∀ id, ¬ KeepsId ⟨.standard, .empty⟩ guideFields
      { Fields.empty with id := some "_disk", title := some "Disk", level := 2 } id := by
    rintro id ⟨⟨⟩, hnone | ⟨-, hgenerated⟩⟩
    · exact hnone rfl
    · exact hgenerated (by decide)
  have htexts : List.Forall₂ (Piece.Writes ⟨.standard, .empty⟩ guideFields)
      (piecesAll (guideChildren.drop 1))
      [[], "---", "<!-- #setup -->\n# Setup", "## Disk", "---", "![A](a.png)"] :=
    .cons (.block rfl) (.cons (.block rfl) (.cons (.keptHeading hsetup) (.cons (.heading hdisk)
      (.cons (.block rfl) (.cons (.block (by decide +kernel)) .nil)))))
  have hsource : ∀ c ∈ ("a.png" : Text), inSource c = true := List.all_eq_true.1 (by decide)
  have hpicture : StandsAlone "image:a.png[A]" :=
    ⟨[], "a.png", "A", [], List.forall_mem_nil _, List.forall_mem_nil _, by decide,
      fun c hc => inSource_iff.1 (hsource c hc), by decide, rfl⟩
  have hends : EndsWith (guideChildren.drop 1) ['\n'] := .picture rfl rfl rfl hpicture
  exact (renderTree_document _ _ _ _).2 ⟨_, _, _, _, hopens, htexts, hends, by decide +kernel⟩

/-- Neither an empty preamble nor a page break leaves a gap, two levels
down. -/
example : renderTree ⟨.standard, .empty⟩
    ((Node.ofKind (.known .document)).addChildren
      [.ofKind (.known .preamble),
        ((Node.ofKind (.known .section)).withTitle "A").addChildren
          [(((Node.ofKind (.known .section)).withTitle "B").withLevel 2).addChildren
            [.ofKind (.known .pageBreak), .ofKind (.known .thematicBreak)],
            .ofKind (.known .thematicBreak)]]) = .ok "# A\n\n## B\n\n---\n\n---".toList := by
  rfl

end Render

end Treedown

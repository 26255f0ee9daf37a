import Treedown.Proofs.Markup.Block
import Treedown.Proofs.Render.Fault
/-!
# Rendering — documents without their nesting

Every section and every preamble joins its own blocks, and drops those of
which nothing is left. Still the text of a document is one join of pieces
(`renderTree_eq_pieces`): headings and blocks in pre-order, however deep they
stand. The pieces are taken from the tree without rendering anything
(`pieces`), and the induction carries the pieces that stand in front, since
joining in two steps is joining at once (`joinBlocks_nested`). All pieces are
rendered in one and the same context: neither a section nor a preamble is an
item or an example, so what stands inside it sees what it would see outside.
-/

namespace Treedown

namespace Render

open Markup

/-! ## Pieces -/

/-- **A piece of a document**: the heading of a section, or a block that is
neither a section nor a preamble. -/
inductive Piece
  | heading (f : Fields)
  | block (node : Node)

mutual

/-- **The pieces of a node in pre-order.** A section brings its heading and
the pieces below it, a preamble only the latter, and any other node is one
piece. -/
def pieces : Node → List Piece
  | .mk kind f children =>
    if kind = .known .section then .heading f :: piecesAll children
    else if kind = .known .preamble then piecesAll children
    else [.block (.mk kind f children)]

/-- The pieces of several nodes. -/
def piecesAll : List Node → List Piece
  | [] => []
  | node :: rest => pieces node ++ piecesAll rest

end

/-- **The text of a piece.** A heading is the comment that keeps its
identifier, if there is one, over a number sign for each level and the
title. -/
def Piece.text (s : Setting) (c : Context) : Piece → Outcome
  | .heading f =>
    .ok (idLine s.options c f ++ List.replicate (max f.level.toNat 1) '#' ++
      ' ' :: f.title.getD [])
  | .block node => render s c node

/-- The texts of several pieces, or the first malformed node among them. -/
def pieceTexts (s : Setting) (c : Context) (pieces : List Piece) : Except Malformed (List Text) :=
  pieces.mapM (Piece.text s c)

/-! ## The blocks of a document -/

/-- The blocks without the headers. -/
def withoutHeaders (nodes : List Node) : List Node :=
  nodes.filter fun node => node.kind ≠ .known .header

/-- **The title of a document and the blocks under it.** A title that is not
blank comes first, then that of a leading section, whose children take its
place; without either nothing is left out. -/
def opening (f : Fields) (children : List Node) : Option Text × List Node :=
  match Text.unlessBlank f.title, children with
  | some title, children => (some title, withoutHeaders children)
  | none, first :: rest =>
    if isTitledSection first then
      (Text.unlessBlank first.fields.title, withoutHeaders (first.children ++ rest))
    else (none, first :: rest)
  | none, [] => (none, [])

/-- Whether the last block is a paragraph whose only line is an image
macro. -/
def endsInPicture (blocks : List Node) : Bool :=
  blocks.getLast?.any fun node => node.kind = .known .paragraph &&
    match node.fields.lines with
    | [line] => isStandalone line
    | _ => false

theorem endsInPicture_eq_true_iff {blocks : List Node} :
    endsInPicture blocks = true ↔ ∃ block line, blocks.getLast? = some block ∧
      block.kind = .known .paragraph ∧ block.fields.lines = [line] ∧ isStandalone line = true := by
  rw [endsInPicture, Option.any_eq_true]
  constructor
  · rintro ⟨block, hblock, h⟩
    rw [Bool.and_eq_true, decide_eq_true_eq] at h
    obtain ⟨hkind, h⟩ := h
    split at h
    · rename_i line hlines
      exact ⟨block, line, hblock, hkind, hlines, h⟩
    · cases h
  · rintro ⟨block, line, hblock, hkind, hlines, hline⟩
    refine ⟨block, hblock, ?_⟩
    rw [hkind, hlines, Bool.and_eq_true, decide_eq_true_eq]
    exact ⟨rfl, hline⟩

/-! ## Joining pieces -/

section

variable {s : Setting} {c : Context}

/-- Where a node is not inside an item, neither are the children of a section
or a preamble, and they are in an example if the node is. -/
theorem within_eq_self {kind : Kind} (hitem : kind ≠ .known .listItem)
    (hexample : kind ≠ .known .example) (h : c.inItem = false) : c.within kind = c := by
  rw [Context.within, decide_eq_false hitem, decide_eq_false hexample, Bool.or_false, ← h]

theorem map_map_eq {α β γ : Type} (f : α → β) (g : β → γ) (x : Except Malformed α) :
    (x.map f).map g = x.map (g ∘ f) := by
  cases x <;> rfl

theorem pieceTexts_append (xs ys : List Piece) :
    pieceTexts s c (xs ++ ys) = do
      let front ← pieceTexts s c xs
      let behind ← pieceTexts s c ys
      return front ++ behind :=
  List.mapM_append

theorem pieceTexts_heading (f : Fields) (rest : List Piece) :
    pieceTexts s c (.heading f :: rest) =
      (pieceTexts s c rest).map (sectionHeading s.options c f :: ·) := by
  rw [pieceTexts, List.mapM_cons, Piece.text, List.append_assoc, ← heading, ← sectionHeading,
    ← pieceTexts]
  cases pieceTexts s c rest <;> rfl

theorem pieceTexts_block (node : Node) :
    pieceTexts s c [.block node] = (render s c node).map ([·]) := by
  rw [pieceTexts, List.mapM_cons, List.mapM_nil, Piece.text]
  cases render s c node <;> rfl

mutual

/-- **The text of a node is its pieces, joined.** -/
theorem render_eq_pieces (h : c.inItem = false) (node : Node) :
    render s c node = (pieceTexts s c (pieces node)).map joinBlocks := by
  match node with
  | .mk kind f children =>
    rw [pieces]
    by_cases hsection : kind = .known .section
    · have hwithin : c.within kind = c :=
        within_eq_self (by rw [hsection]; decide) (by rw [hsection]; decide) h
      have hbelow := texts_eq_pieces h [sectionHeading s.options c f] children
      rw [if_pos hsection, pieceTexts_heading, map_map_eq, render, annotate, hwithin]
      subst hsection
      exact hbelow
    by_cases hpreamble : kind = .known .preamble
    · have hwithin : c.within kind = c :=
        within_eq_self (by rw [hpreamble]; decide) (by rw [hpreamble]; decide) h
      have hbelow := texts_eq_pieces h [] children
      rw [if_neg hsection, if_pos hpreamble, render, annotate, hwithin]
      subst hpreamble
      exact hbelow
    · rw [if_neg hsection, if_neg hpreamble, pieceTexts_block, map_map_eq]
      cases render s c (.mk kind f children) with
      | error m => rfl
      | ok t => exact congrArg Except.ok (joinBlocks_singleton t).symm

/-- So are the texts of several nodes, behind any texts. -/
theorem texts_eq_pieces (h : c.inItem = false) (front : List Text) (nodes : List Node) :
    (Rendered.texts (annotateAll s c nodes)).map (fun ts => joinBlocks (front ++ ts)) =
      (pieceTexts s c (piecesAll nodes)).map fun ts => joinBlocks (front ++ ts) := by
  match nodes with
  | [] => rfl
  | node :: rest =>
    have hnode := render_eq_pieces h node
    rw [texts_annotateAll, List.mapM_cons, ← texts_annotateAll, piecesAll, pieceTexts_append, hnode]
    cases pieceTexts s c (pieces node) with
    | error m => rfl
    | ok ts =>
      -- what came of the node joins the texts in front, piece by piece
      calc
        _ = (Rendered.texts (annotateAll s c rest)).map
            fun us => joinBlocks (front ++ joinBlocks ts :: us) := by
          cases Rendered.texts (annotateAll s c rest) <;> rfl
        _ = (Rendered.texts (annotateAll s c rest)).map
            fun us => joinBlocks (front ++ ts ++ us) := by
          simp only [joinBlocks_nested, List.append_assoc]
        _ = (pieceTexts s c (piecesAll rest)).map fun us => joinBlocks (front ++ ts ++ us) :=
          texts_eq_pieces h (front ++ ts) rest
        _ = _ := by
          simp only [List.append_assoc]
          cases pieceTexts s c (piecesAll rest) <;> rfl

end

/-! ## Documents -/

variable {f : Fields} {children : List Node}

theorem filter_annotateAll (nodes : List Node) :
    (annotateAll s c nodes).filter (·.kind ≠ .known .header) =
      annotateAll s c (withoutHeaders nodes) := by
  rw [annotateAll_eq_map, annotateAll_eq_map, List.filter_map, withoutHeaders]
  exact congrArg _ (List.filter_congr fun node _ => by simp [kind_annotate])

/-- A document finds its title in the tree. -/
theorem titled_annotateAll (hc : c.title = Text.unlessBlank f.title) (below : Context) :
    (titled c (annotateAll s below children)).1 = (opening f children).1 := by
  cases ht : Text.unlessBlank f.title with
  | some title => simp only [titled, opening, hc, ht]
  | none =>
    cases children with
    | nil => simp [titled, opening, hc, ht, annotateAll, promote?]
    | cons first rest =>
      obtain ⟨kind, fields, nodes⟩ := first
      simp only [titled, opening, hc, ht, annotateAll, annotate, promote?, isTitledSection,
        Node.kind, Node.fields]
      by_cases hk : kind = .known .section
      · rcases Option.eq_none_or_eq_some (Text.unlessBlank fields.title) with hf | ⟨title, hf⟩
        · simp [hk, hf]
        · simp [hk, hf]
      · simp [hk]

/-- And its blocks there. The children of a leading section are rendered in
the context of the document's own. -/
theorem documentBlocks_annotateAll (hc : c.title = Text.unlessBlank f.title) :
    documentBlocks c (annotateAll s (c.within (.known .document)) children) =
      annotateAll s (c.within (.known .document)) (opening f children).2 := by
  cases ht : Text.unlessBlank f.title with
  | some title =>
    simp only [documentBlocks, titled, opening, hc, ht, Option.isSome_some, if_true]
    exact filter_annotateAll children
  | none =>
    match children with
    | [] => simp [documentBlocks, titled, opening, hc, ht, annotateAll, promote?]
    | first :: rest =>
      rw [documentBlocks_of_title_eq_none s c _ (hc.trans ht)]
      simp only [opening, ht]
      by_cases hfirst : isTitledSection first = true
      · have hsection : first.kind = .known .section := by
          simp only [isTitledSection, Bool.and_eq_true, decide_eq_true_eq] at hfirst
          exact hfirst.1
        have hwithin : (c.within (.known .document)).within first.kind =
            c.within (.known .document) :=
          within_eq_self (by rw [hsection]; decide) (by rw [hsection]; decide) rfl
        rw [if_pos hfirst, if_pos hfirst, children_annotate, hwithin, ← filter_annotateAll,
          annotateAll_eq_map, annotateAll_eq_map, annotateAll_eq_map, List.map_append]
      · rw [if_neg hfirst, if_neg hfirst]

/-- Its last block is looked at there as well. -/
theorem isLonePicture_getLast? (blocks : List Node) :
    (annotateAll s c blocks).getLast?.any isLonePicture = endsInPicture blocks := by
  rw [annotateAll_eq_map, List.getLast?_map, endsInPicture]
  cases blocks.getLast? with
  | none => rfl
  | some node => cases node; rfl

/-- A document joins the texts of its blocks under its title. -/
theorem document_eq (c : Context) (nodes : List Rendered) :
    document c nodes = (Rendered.texts (documentBlocks c nodes)).map fun texts =>
      joinBlocks (((titled c nodes).1.map setextHeading).toList ++ texts) ++
        if (documentBlocks c nodes).getLast?.any isLonePicture then ['\n'] else [] :=
  bind_pure_comp _ _

/-- **A document is rendered from its title and the blocks under it**, whether
the title is its own or that of a section. -/
theorem renderTree_eq_of_opening (s : Setting) (f : Fields) (children : List Node) :
    renderTree s (.mk (.known .document) f children) =
      (Rendered.texts (annotateAll s ((Context.ofRoot f).within (.known .document))
        (opening f children).2)).map fun texts =>
          joinBlocks (((opening f children).1.map setextHeading).toList ++ texts) ++
            if endsInPicture (opening f children).2 then ['\n'] else [] := by
  have hc : (Context.ofRoot f).title = Text.unlessBlank f.title := rfl
  have hdocument : renderTree s (.mk (.known .document) f children) =
      document (.ofRoot f)
        (annotateAll s ((Context.ofRoot f).within (.known .document)) children) := rfl
  rw [hdocument, document_eq, titled_annotateAll hc, documentBlocks_annotateAll hc,
    isLonePicture_getLast?]

/-- **A document is the join of its pieces** under its title, with a line feed
behind them where the last block is a picture. It fails to render just when
one of its pieces does, and as the first of them. -/
theorem renderTree_eq_pieces (s : Setting) (f : Fields) (children : List Node) :
    renderTree s (.mk (.known .document) f children) =
      (pieceTexts s ((Context.ofRoot f).within (.known .document))
        (piecesAll (opening f children).2)).map fun texts =>
          joinBlocks (((opening f children).1.map setextHeading).toList ++ texts) ++
            if endsInPicture (opening f children).2 then ['\n'] else [] := by
  have hjoined := texts_eq_pieces (s := s) (c := (Context.ofRoot f).within (.known .document)) rfl
    ((opening f children).1.map setextHeading).toList (opening f children).2
  rw [renderTree_eq_of_opening]
  generalize (if endsInPicture (opening f children).2 then ['\n'] else [] : Text) = tail
  calc
    _ = ((Rendered.texts (annotateAll s _ (opening f children).2)).map _).map (· ++ tail) :=
      (map_map_eq _ _ _).symm
    _ = _ := by rw [hjoined, map_map_eq]; rfl

end

end Render

end Treedown

import Treedown.Proofs.Node.Preorder
import Treedown.Proofs.Render.Flattening
/-!
# Rendering — the title of a leading section

A document without a title takes that of a leading section, and is rendered
as if the title were its own and the section's blocks stood in the place of
the section (`renderTree_of_takesTitle`).

The two documents do not look alike from inside: one has a title and the
other has none, so the blocks are rendered in different contexts. But the
title is a fact that few nodes look at, nested documents and headers without
a title of their own (`LeavesTitle`). In a tree without them any title leaves
the outcome of every node as it is (`annotate_withTitle`), and a document
leaves the headers among its own blocks out.
-/

namespace Treedown

namespace Render

open Markup

/-! ## Nodes that do not look at the title -/

/-- The context of a document with another title. -/
def Context.withTitle (c : Context) (title : Option Text) : Context :=
  { c with title := title }

/-- **A node leaves the title of the document alone**: it is no document, and
if it is a header it has a title of its own. -/
structure LeavesTitle (node : Node) : Prop where
  noDocument : node.kind ≠ .known .document
  ownTitle : node.kind = .known .header → node.fields.title.isSome = true

section

variable {s : Setting} {title : Option Text}

/-- A header writes its own title, even if that is blank. -/
theorem header_withTitle (c : Context) {f : Fields} (h : f.title.isSome = true) :
    header (c.withTitle title) f = header c f := by
  obtain ⟨own, hown⟩ := Option.isSome_iff_exists.1 h
  rw [header, header, hown, Option.some_or, Option.some_or]

/-- **The rule of such a node comes to the same under any title.** -/
theorem rule_withTitle (c : Context) {kind : Kind} {f : Fields} {below : List Node}
    (h : LeavesTitle (.mk kind f below)) (children : List Rendered) :
    rule s (c.withTitle title) kind kind f children = rule s c kind kind f children := by
  cases kind with
  | other name unknown => rfl
  | known k =>
    cases k with
    | document => exact absurd rfl h.noDocument
    | header => exact congrArg Except.ok (header_withTitle c (h.ownTitle rfl))
    | _ => rfl

mutual

/-- **The title of a document does not show in a tree** in which every node
leaves it alone. -/
theorem annotate_withTitle (c : Context) (node : Node)
    (h : ∀ n ∈ node.preorder, LeavesTitle n) :
    annotate s (c.withTitle title) node = annotate s c node := by
  match node with
  | .mk kind f children =>
    rw [Node.preorder, List.forall_mem_cons] at h
    obtain ⟨hown, hbelow⟩ := h
    -- going down into a node changes the context, but not its title
    have hwithin : (c.withTitle title).within kind = (c.within kind).withTitle title := rfl
    rw [annotate, annotate, hwithin, annotateAll_withTitle _ children hbelow,
      rule_withTitle c hown]

theorem annotateAll_withTitle (c : Context) (nodes : List Node)
    (h : ∀ n ∈ Node.preorderAll nodes, LeavesTitle n) :
    annotateAll s (c.withTitle title) nodes = annotateAll s c nodes := by
  match nodes with
  | [] => rfl
  | node :: rest =>
    rw [Node.preorderAll, List.forall_mem_append] at h
    rw [annotateAll, annotateAll, annotate_withTitle c node h.1, annotateAll_withTitle c rest h.2]

end

end

/-! ## The title of a leading section -/

/-- **A document takes the title of its first section**, and nothing else in
it looks at the title of the document. -/
structure TakesTitle (f : Fields) (first : Node) (rest : List Node) (title : Text) : Prop where
  untitled : Text.unlessBlank f.title = none
  leads : first.kind = .known .section
  titled : first.fields.title = some title
  notBlank : title.blank = false
  noDocuments : ∀ node ∈ Node.preorderAll (first :: rest), node.kind ≠ .known .document
  /-- Headers are free to have no title where they are blocks of the document
  or of the section. -/
  ownTitles : ∀ block ∈ first.children ++ rest, ∀ node ∈ Node.preorderAll block.children,
    node.kind = .known .header → node.fields.title.isSome = true

namespace TakesTitle

variable {f : Fields} {first : Node} {rest : List Node} {title : Text}

theorem unlessBlank_title (h : TakesTitle f first rest title) :
    Text.unlessBlank (some title) = some title := by
  rw [Text.unlessBlank, Option.filter_some, h.notBlank]
  rfl

/-- The section gives its title and its blocks. -/
theorem opening_eq (h : TakesTitle f first rest title) :
    opening f (first :: rest) = (some title, withoutHeaders (first.children ++ rest)) := by
  have hfirst : isTitledSection first = true := by
    rw [isTitledSection, h.leads, h.titled, h.unlessBlank_title]
    rfl
  simp only [opening, h.untitled, hfirst, if_true, h.titled, h.unlessBlank_title]

/-- The same title over the same blocks, written into the document. -/
theorem opening_spliced (h : TakesTitle f first rest title) :
    opening { f with title := some title } (first.children ++ rest) =
      (some title, withoutHeaders (first.children ++ rest)) := by
  simp only [opening, h.unlessBlank_title]

/-- The blocks see the new title, and nothing else has changed above them. -/
theorem within_ofRoot (h : TakesTitle f first rest title) :
    (Context.ofRoot { f with title := some title }).within (.known .document) =
      ((Context.ofRoot f).within (.known .document)).withTitle (some title) := by
  simp only [Context.ofRoot, h.unlessBlank_title]
  rfl

/-- The children of the section and what follows it are nodes below the
document. -/
theorem mem_preorderAll_of_block {block node : Node} (h : block ∈ first.children ++ rest)
    (hnode : node ∈ block.preorder) : node ∈ Node.preorderAll (first :: rest) := by
  rw [Node.preorderAll, Node.preorder_eq_cons, List.mem_append, List.mem_cons]
  rcases List.mem_append.1 h with hchild | hrest
  · exact .inl (.inr (Node.mem_preorderAll_iff.2 ⟨block, hchild, hnode⟩))
  · exact .inr (Node.mem_preorderAll_iff.2 ⟨block, hrest, hnode⟩)

/-- **No block looks at the title**: it is no header itself, and headers below
it have titles of their own. -/
theorem leavesTitle (h : TakesTitle f first rest title) :
    ∀ node ∈ Node.preorderAll (withoutHeaders (first.children ++ rest)), LeavesTitle node := by
  intro node hnode
  obtain ⟨block, hblock, hnode⟩ := Node.mem_preorderAll_iff.1 hnode
  obtain ⟨hblock, hheader⟩ := List.mem_filter.1 hblock
  refine ⟨h.noDocuments node (mem_preorderAll_of_block hblock hnode), fun hkind => ?_⟩
  rw [Node.preorder_eq_cons, List.mem_cons] at hnode
  rcases hnode with rfl | hbelow
  · exact absurd hkind (of_decide_eq_true hheader)
  · exact h.ownTitles block hblock node hbelow hkind

end TakesTitle

/-- **Taking the title of the first section is having it.** The document is
rendered like the one with that title of its own, in which the children of
the section stand in the place of the section; both come to the same text, or
fail on the same node. -/
theorem renderTree_of_takesTitle (s : Setting) {f : Fields} {first : Node} {rest : List Node}
    {title : Text} (h : TakesTitle f first rest title) :
    renderTree s (.mk (.known .document) f (first :: rest)) =
      renderTree s (.mk (.known .document) { f with title := some title }
        (first.children ++ rest)) := by
  rw [renderTree_eq_of_opening, renderTree_eq_of_opening, h.opening_eq, h.opening_spliced,
    h.within_ofRoot, annotateAll_withTitle _ _ h.leavesTitle]

/-! A document with a blank title takes that of its first section, and ends in
a picture. Each of the two has a header that is left out, and an example in
the section has one with a title of its own. -/

/-- A header without a title. -/
def bareHeader : Node :=
  .ofKind (.known .header)

/-- The blocks of the section. -/
def leadingBlocks : List Node :=
  [bareHeader, (Node.ofKind (.known .example)).addChildren
    [(Node.ofKind (.known .header)).withTitle "Inner"]]

/-- The section. -/
def leadingSection : Node :=
  ((Node.ofKind (.known .section)).withTitle "Guide").addChildren leadingBlocks

/-- What follows the section. -/
def followingBlocks : List Node :=
  [bareHeader, (Node.ofKind (.known .paragraph)).addLines ["image:a.png[]"]]

/-- The fields of the document. -/
def blankTitle : Fields :=
  { Fields.empty with title := some " " }

theorem renderTree_of_takesTitle_innerHeader :
    TakesTitle blankTitle leadingSection followingBlocks "Guide" ∧
      renderTree ⟨.standard, .empty⟩
          (.mk (.known .document) blankTitle (leadingSection :: followingBlocks)) =
        renderTree ⟨.standard, .empty⟩
          (.mk (.known .document) { blankTitle with title := some "Guide" }
            (leadingBlocks ++ followingBlocks)) ∧
      renderTree ⟨.standard, .empty⟩
          (.mk (.known .document) blankTitle (leadingSection :: followingBlocks)) =
        .ok "Guide\n=====\n\n> Inner\n> =====\n\n![](a.png)\n".toList := by
  have htakes : TakesTitle blankTitle leadingSection followingBlocks "Guide" :=
    ⟨by decide, rfl, rfl, by decide, by decide, by decide⟩
  exact ⟨htakes, renderTree_of_takesTitle ⟨.standard, .empty⟩ htakes, by decide +kernel⟩

end Render

end Treedown

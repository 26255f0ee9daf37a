import Treedown.Proofs.Node.Preorder
import Treedown.Proofs.Render.NestedList
import Treedown.Proofs.Render.Shown
/-!
# Rendering — page breaks

A page break comes to nothing, and it leaves nothing behind. `InsertsBreak`
is the relation of two trees of which the second has one page break more,
between two blocks of a node that passes over empty ones. By induction along
the path to that node both trees come to the same (`alike_annotate`): at the
node itself the same blocks are shown, and above it there is a node that
comes to the same as before. The relation knows whether a node stands in a
list, since its rule is not applied then and its blocks are taken as they
are.
-/

namespace Treedown

/-- The kinds that pass over blocks that come to nothing. -/
def Node.breakable : List Kind :=
  [.known .document, .known .section, .known .preamble, .known .admonition, .known .paragraph]

/-- **A page break is inserted** somewhere in a tree, between two children of a
node. `inList` says whether the tree stands directly in a list. -/
inductive Node.InsertsBreak : (inList : Bool) → Node → Node → Prop
  /-- Between two blocks of a node. -/
  | block {inList : Bool} {kind : Kind} {f : Fields} {front back : List Node} {added : Node}
      (hkind : kind ∈ breakable) (hfront : front ≠ []) (hback : back ≠ [])
      (hadded : added.kind = .known .pageBreak) :
      InsertsBreak inList (.mk kind f (front ++ back)) (.mk kind f (front ++ added :: back))
  /-- Between two blocks of an item, in a list that is no item itself. -/
  | item {kind : Kind} {f fields : Fields} (before : List Node) {behind front back : List Node}
      {added : Node} (hlist : kind.isList = true) (hfront : front ≠ []) (hback : back ≠ [])
      (hadded : added.kind = .known .pageBreak) :
      InsertsBreak false
        (.mk kind f (before ++ .mk (.known .listItem) fields (front ++ back) :: behind))
        (.mk kind f (before ++ .mk (.known .listItem) fields (front ++ added :: back) :: behind))
  /-- Inside a child. -/
  | inside {inList : Bool} {kind : Kind} {f : Fields} (before : List Node) {behind : List Node}
      {child changed : Node} (h : InsertsBreak kind.isList child changed) :
      InsertsBreak inList (.mk kind f (before ++ child :: behind))
        (.mk kind f (before ++ changed :: behind))

namespace Render

open Node

variable {s : Setting} {c : Context}

/-! ## Nodes without headers -/

/-- **No header in a tree.** -/
def NoHeaders (node : Node) : Prop :=
  ∀ below ∈ node.preorder, below.kind ≠ .known .header

theorem NoHeaders.child {node child : Node} (h : NoHeaders node) (hchild : child ∈ node.children) :
    NoHeaders child := fun below hbelow =>
  h below (node.preorder_eq_cons ▸
    List.mem_cons_of_mem node (mem_preorderAll_iff.2 ⟨child, hchild, hbelow⟩))

theorem NoHeaders.kind_ne {node : Node} (h : NoHeaders node) : node.kind ≠ .known .header :=
  h node (node.preorder_eq_cons ▸ List.mem_cons_self)

theorem kind_ne_of_mem_annotateAll {nodes : List Node} (h : ∀ node ∈ nodes, NoHeaders node) :
    ∀ r ∈ annotateAll s c nodes, r.kind ≠ .known .header := by
  rw [annotateAll_eq_map]
  intro r hr
  obtain ⟨node, hnode, rfl⟩ := List.mem_map.1 hr
  exact kind_annotate node ▸ (h node hnode).kind_ne

theorem NoHeaders.sameBlocks {node : Node} (h : NoHeaders node) :
    SameBlocks (annotate s c node).children (annotate s c node).children := by
  rw [children_annotate]
  exact .refl (kind_ne_of_mem_annotateAll fun child hchild => h.child hchild)

theorem NoHeaders.alike {node : Node} (h : NoHeaders node) (inList : Bool) :
    Alike inList (annotate s c node) (annotate s c node) :=
  ⟨rfl, rfl, rfl, fun _ => h.sameBlocks⟩

/-! ## At the node -/

theorem annotateAll_append_cons (front back : List Node) (node : Node) :
    annotateAll s c (front ++ node :: back) =
      annotateAll s c front ++ annotate s c node :: annotateAll s c back := by
  simp only [annotateAll_eq_map, List.map_append, List.map_cons]

/-- **A page break between two blocks** is not one of the blocks. -/
theorem sameBlocks_pageBreak {front back : List Node} {added : Node} (hback : back ≠ [])
    (hadded : added.kind = .known .pageBreak) (hfree : ∀ node ∈ front ++ back, NoHeaders node) :
    SameBlocks (annotateAll s c (front ++ back)) (annotateAll s c (front ++ added :: back)) := by
  have hsplit : annotateAll s c (front ++ back) =
      annotateAll s c front ++ annotateAll s c back := by
    simp only [annotateAll_eq_map, List.map_append]
  have hkind : (annotate s c added).kind = .known .pageBreak := (kind_annotate added).trans hadded
  have hnothing : comesToNothing (annotate s c added) = true := by
    obtain ⟨kind, fields, children⟩ := added
    obtain rfl : kind = .known .pageBreak := hadded
    rfl
  rw [annotateAll_append_cons, hsplit]
  refine .insert ?_ hnothing (by rw [hkind]; decide) (hsplit ▸ kind_ne_of_mem_annotateAll hfree)
  rw [annotateAll_eq_map]
  exact fun hnil => hback (List.map_eq_nil_iff.1 hnil)

/-- A node with the page break comes to what it came to before. -/
theorem rule_pageBreak {kind : Kind} (f : Fields) {front back : List Node} {added : Node}
    (hkind : kind ∈ breakable) (hfront : front ≠ []) (hback : back ≠ [])
    (hadded : added.kind = .known .pageBreak) (hfree : ∀ node ∈ front ++ back, NoHeaders node) :
    rule s c kind kind f (annotateAll s (c.within kind) (front ++ back)) =
      rule s c kind kind f (annotateAll s (c.within kind) (front ++ added :: back)) := by
  have hblocks : SameBlocks (annotateAll s (c.within kind) (front ++ back))
      (annotateAll s (c.within kind) (front ++ added :: back)) :=
    sameBlocks_pageBreak hback hadded hfree
  simp only [breakable, List.mem_cons, List.not_mem_nil, or_false] at hkind
  rcases hkind with rfl | rfl | rfl | rfl | rfl
  · -- the first block stays the first, and it may be opened
    obtain ⟨first, rest, rfl⟩ := List.exists_cons_of_ne_nil hfront
    obtain ⟨hfirst, hrest⟩ := List.forall_mem_cons.1 hfree
    exact document_congr c (hfirst.alike false) hblocks
      (sameBlocks_pageBreak hback hadded hrest)
  · exact sectionBlock_congr s.options c f hblocks.shown
  · exact preamble_congr hblocks.shown
  · exact admonition_congr f hblocks.shown hblocks.isEmpty
  · exact paragraph_congr f hblocks.shown hblocks.isEmpty

/-! ## Above the node -/

/-- Rules other than those of documents and lists look at the kinds and the
outcomes of their nodes. -/
theorem rule_eq_of_outcomes {kind : Kind} (f : Fields) {xs ys : List Rendered}
    (hdocument : kind ≠ .known .document) (hlist : kind.isList = false)
    (hkinds : xs.map Rendered.kind = ys.map Rendered.kind)
    (houtcomes : xs.map Rendered.outcome = ys.map Rendered.outcome) :
    rule s c kind kind f xs = rule s c kind kind f ys := by
  have htexts : Rendered.texts xs = Rendered.texts ys := by
    have hmap (nodes : List Rendered) :
        Rendered.texts nodes = (nodes.map Rendered.outcome).mapM id := by
      rw [List.mapM_map]
      rfl
    rw [hmap, hmap, houtcomes]
  have hempty : xs.isEmpty = ys.isEmpty := by
    rw [← List.isEmpty_map (f := Rendered.kind), hkinds, List.isEmpty_map]
  cases kind with
  | other name unknown => rfl
  | known k =>
    cases k with
    | document => exact absurd rfl hdocument
    | olist => cases hlist
    | ulist => cases hlist
    | preamble => exact congrArg (Except.map Markup.joinBlocks) htexts
    | «section» => simp only [rule, sectionBlock, htexts]
    | paragraph => simp only [rule, paragraph, htexts, hempty]
    | listItem => simp only [rule, loneItem, htexts]
    | admonition => simp only [rule, admonition, htexts, hempty]
    | «example» => simp only [rule, exampleBlock, htexts, hkinds]
    | _ => rfl

/-- A child that comes to the same makes no other blocks. -/
theorem sameBlocks_of_alike {inList : Bool} (front : List Node) {back : List Node}
    {child changed : Node} (h : Alike inList (annotate s c child) (annotate s c changed))
    (hfree : ∀ node ∈ front ++ child :: back, NoHeaders node) :
    SameBlocks (annotateAll s c (front ++ child :: back))
      (annotateAll s c (front ++ changed :: back)) := by
  have hkinds := kind_ne_of_mem_annotateAll (s := s) (c := c) hfree
  rw [annotateAll_append_cons] at hkinds ⊢
  rw [annotateAll_append_cons]
  exact .middle h hkinds

/-- **A node comes to the same** when one of its children does. -/
theorem rule_of_alike {kind : Kind} (f : Fields) {front back : List Node} {child changed : Node}
    (hfree : ∀ node ∈ front ++ child :: back, NoHeaders node)
    (h : Alike kind.isList (annotate s (c.within kind) child)
      (annotate s (c.within kind) changed)) :
    rule s c kind kind f (annotateAll s (c.within kind) (front ++ child :: back)) =
      rule s c kind kind f (annotateAll s (c.within kind) (front ++ changed :: back)) := by
  by_cases hlist : kind.isList = true
  · -- the items are opened
    have hitem (marker : Text) := item_congr marker (annotate s (c.within kind) child).fields
      (h.below (.inl hlist)).shown
    rw [rule_of_isList hlist, rule_of_isList hlist, annotateAll_append_cons,
      annotateAll_append_cons]
    exact list_congr _ kind _ _ fun marker => (hitem marker).trans (by rw [h.fields])
  by_cases hdocument : kind = .known .document
  · -- the first block may be opened, and it may be the child
    subst hdocument
    cases front with
    | nil =>
      have hback : ∀ node ∈ back, NoHeaders node := (List.forall_mem_cons.1 hfree).2
      exact document_congr c h (sameBlocks_of_alike [] h hfree)
        (.refl (kind_ne_of_mem_annotateAll hback))
    | cons first rest =>
      obtain ⟨hfirst, hrest⟩ := List.forall_mem_cons.1 hfree
      exact document_congr c (hfirst.alike false)
        (sameBlocks_of_alike (first :: rest) h hfree) (sameBlocks_of_alike rest h hrest)
  · rw [annotateAll_append_cons, annotateAll_append_cons]
    refine rule_eq_of_outcomes f hdocument (by simpa using hlist) ?_ ?_
    · simp only [List.map_append, List.map_cons, h.kind]
    · simp only [List.map_append, List.map_cons, h.outcome]

/-! ## The tree -/

/-- **Both trees come to the same**, wherever they stand. The induction is on
the path to the page break. -/
theorem alike_annotate {inList : Bool} {before after : Node} (h : InsertsBreak inList before after)
    (hfree : NoHeaders before) : Alike inList (annotate s c before) (annotate s c after) := by
  induction h generalizing c with
  | @block inList kind f front back added hkind hfront hback hadded =>
    have hchildren : ∀ node ∈ front ++ back, NoHeaders node := fun _ hnode => hfree.child hnode
    exact ⟨rfl, rfl, rule_pageBreak _ hkind hfront hback hadded hchildren,
      fun _ => sameBlocks_pageBreak hback hadded hchildren⟩
  | @item kind f fields before behind front back added hlist hfront hback hadded =>
    have hitem : NoHeaders (.mk (.known .listItem) fields (front ++ back)) :=
      hfree.child (List.mem_append_right before List.mem_cons_self)
    refine ⟨rfl, rfl, ?_, fun hopen => ?_⟩
    · refine (rule_of_isList hlist f _).trans (Eq.trans ?_ (rule_of_isList hlist f _).symm)
      rw [annotateAll_append_cons, annotateAll_append_cons]
      refine list_congr _ kind _ _ fun marker => item_congr marker fields ?_
      exact (sameBlocks_pageBreak hback hadded fun node hnode => hitem.child hnode).shown
    · -- as an item the list would be opened itself
      rcases hopen with hopen | hopen
      · cases hopen
      · exact absurd (hlist.symm.trans hopen) (by decide)
  | @inside inList kind f before behind child changed _ ih =>
    have hchildren : ∀ node ∈ before ++ child :: behind, NoHeaders node := fun _ hnode =>
      hfree.child hnode
    have hchild : NoHeaders child :=
      hchildren child (List.mem_append_right before List.mem_cons_self)
    exact ⟨rfl, rfl, rule_of_alike f hchildren (ih hchild),
      fun _ => sameBlocks_of_alike before (ih hchild) hchildren⟩

/-- **A page break between two blocks leaves no trace.** In a tree without
headers it may be put between any two children of a document, a section, a
preamble, an admonition or a paragraph, or of an item whose list is no item
itself: the tree is rendered to the same text, or fails alike, whatever the
options and the files are. -/
theorem renderTree_of_insertsBreak {root after : Node}
    (hheaders : ∀ node ∈ root.preorder, node.kind ≠ .known .header)
    (h : InsertsBreak false root after) (s : Setting) : renderTree s after = renderTree s root := by
  have halike (c : Context) := alike_annotate (s := s) (c := c) h hheaders
  have hfields : root.fields = after.fields := by
    cases h <;> rfl
  rw [renderTree, renderTree, hfields]
  exact (halike (.ofRoot after.fields)).outcome.symm

/-- A paragraph of one line. -/
def lineOf (line : Text) : Node :=
  (Node.ofKind (.known .paragraph)).addLines [line]

/-- A document that takes the title of its section. A list with one item
stands there, the blocks of which are given, and then a picture. -/
def listOver (blocks : List Node) : Node :=
  (Node.ofKind (.known .document)).addChildren
    [((Node.ofKind (.known .section)).withTitle "Intro").addChildren
      [(Node.ofKind (.known .ulist)).addChildren
        [((Node.ofKind (.known .listItem)).withText "a").addChildren blocks],
        lineOf "image:cat.png[]"]]

/-- **A page break in an item** of a list in a section that is opened. -/
theorem renderTree_of_insertsBreak_listOver :
    (∀ node ∈ (listOver [lineOf "b", lineOf "c"]).preorder, node.kind ≠ .known .header) ∧
      InsertsBreak false (listOver [lineOf "b", lineOf "c"])
        (listOver [lineOf "b", Node.ofKind (.known .pageBreak), lineOf "c"]) ∧
      renderTree ⟨.standard, .empty⟩
          (listOver [lineOf "b", Node.ofKind (.known .pageBreak), lineOf "c"]) =
        .ok "Intro\n=====\n\n- a\n  b\n  c\n\n![](cat.png)\n".toList := by
  have hheaders : ∀ node ∈ (listOver [lineOf "b", lineOf "c"]).preorder,
      node.kind ≠ .known .header := by decide +kernel
  have hinserts : InsertsBreak false (listOver [lineOf "b", lineOf "c"])
      (listOver [lineOf "b", Node.ofKind (.known .pageBreak), lineOf "c"]) :=
    .inside [] (.inside [] (.item [] rfl (List.cons_ne_nil (lineOf "b") [])
      (List.cons_ne_nil (lineOf "c") []) rfl))
  refine ⟨hheaders, hinserts, ?_⟩
  rw [renderTree_of_insertsBreak hheaders hinserts]
  decide +kernel

end Render

end Treedown

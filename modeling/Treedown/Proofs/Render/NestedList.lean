import Treedown.Proofs.Outline.Locality
import Treedown.Proofs.Text.Lines
/-!
# Rendering — nested lists

A list is written line by line as its items come, however deep they are.
The layout is said here without the renderer: `listLines` goes through a
tree of lists and puts every item at the column of its depth, what follows
the first line of an item under the item's text, and the lists inside an
item at the columns of their own. Of the blocks that are no lists it is only
told the text. `splitOn_render_of_isNested` says that the renderer lays out
lists in this way when their levels are their depths; it is one induction
over lists, their items and the blocks inside them.
-/

namespace Treedown

namespace Render

/-! ## The layout -/

/-- The marker of the `k`-th item of a list. -/
def itemMarker (kind : Kind) (k : Nat) : Text :=
  if kind = .known .olist then Text.ofNat k ++ (". " : Text) else ("- " : Text)

/-- How far a list of a depth, counted from one, is moved right. -/
def depthColumn (depth : Nat) : Nat :=
  2 * (depth - 1)

/-- The lines of the text of an item: the first behind its column and its
marker, the others behind as many spaces as stand before the first. -/
def textLines (column : Nat) (marker : Text) (t : Text) : List Text :=
  match t.splitOn '\n' with
  | [] => []
  | first :: rest =>
    (Text.spaces column ++ marker ++ first) ::
      rest.map (Text.spaces (column + marker.length) ++ ·)

/-- The lines of a block that is no list: each behind `n` spaces unless it is
empty, and none if the block is empty. -/
def shiftedLines (n : Nat) (t : Text) : List Text :=
  if t.isEmpty then []
  else (t.splitOn '\n').map fun line => if line.isEmpty then [] else Text.spaces n ++ line

mutual

/-- **The lines of a list** of a depth. `text` gives the text of the blocks
that are no lists. -/
def listLines (text : Node → Text) (depth : Nat) : Node → List Text
  | .mk kind _ items => itemLines text depth kind 1 items

/-- The lines of items, the first of which has the number `k`. -/
def itemLines (text : Node → Text) (depth : Nat) (kind : Kind) (k : Nat) : List Node → List Text
  | [] => []
  | .mk _ fields blocks :: rest =>
    textLines (depthColumn depth) (itemMarker kind k) (fields.text.getD []) ++
      blockLines text (depthColumn depth + (itemMarker kind k).length) (depth + 1) blocks ++
      itemLines text depth kind (k + 1) rest

/-- The lines of the blocks of an item: lists are lists of the next depth, and
other blocks are moved right by `n`. -/
def blockLines (text : Node → Text) (n depth : Nat) : List Node → List Text
  | [] => []
  | block :: rest =>
    (if block.kind.isList then listLines text depth block else shiftedLines n (text block)) ++
      blockLines text n depth rest

end

/-! ## Nested lists -/

mutual

/-- **A node is a list at a depth**: it has items, its level is the depth, all
its children are items, and so it is for the lists inside them one deeper.
Every other block comes to its text in the context `c`. -/
def IsNested (s : Setting) (c : Context) (text : Node → Text) (depth : Nat) : Node → Prop
  | .mk kind fields items =>
    kind.isList = true ∧ fields.level.toNat = depth ∧ items ≠ [] ∧ AreItems s c text depth items

/-- All nodes are items of a list of a depth. -/
def AreItems (s : Setting) (c : Context) (text : Node → Text) (depth : Nat) : List Node → Prop
  | [] => True
  | .mk kind _ blocks :: rest =>
    kind = .known .listItem ∧ AreBlocks s c text (depth + 1) blocks ∧ AreItems s c text depth rest

/-- Among the blocks of an item the lists are lists of a depth, and the others
come to their texts. -/
def AreBlocks (s : Setting) (c : Context) (text : Node → Text) (depth : Nat) : List Node → Prop
  | [] => True
  | block :: rest =>
    (if block.kind.isList then IsNested s c text depth block
      else render s c block = .ok (text block)) ∧ AreBlocks s c text depth rest

end

/-! ## The renderer -/

section

variable {s : Setting} {c : Context} {text : Node → Text} {depth : Nat}

/-- Ordered or not, a list differs from another in its markers alone. -/
theorem rule_of_isList {kind : Kind} (h : kind.isList = true) (f : Fields)
    (items : List Rendered) :
    rule s c kind kind f items =
      list (fun k => Text.spaces (listIndent c f) ++ itemMarker kind k) kind items := by
  cases kind with
  | other name unknown => cases h
  | known k =>
    cases k with
    | olist =>
      have hmarker : numeral (listIndent c f) =
          fun k => Text.spaces (listIndent c f) ++ itemMarker (.known .olist) k := by
        funext k
        rw [numeral, itemMarker, if_pos rfl, List.append_assoc]
      rw [rule, hmarker]
    | ulist => rfl
    | _ => cases h

theorem itemMarker_ne_nil (kind : Kind) (k : Nat) : itemMarker kind k ≠ [] := by
  rw [itemMarker]
  by_cases h : kind = .known .olist
  · rw [if_pos h]
    exact List.append_ne_nil_of_right_ne_nil _ (by decide)
  · rw [if_neg h]
    decide

theorem not_mem_itemMarker (kind : Kind) (k : Nat) : '\n' ∉ itemMarker kind k := by
  rw [itemMarker]
  by_cases h : kind = .known .olist
  · rw [if_pos h, List.mem_append]
    refine not_or.2 ⟨fun hmem => ?_, by decide⟩
    have hdigit := Nat.isDigit_of_mem_toDigits (by decide) (by decide) hmem
    exact absurd hdigit (by decide)
  · rw [if_neg h]
    decide

/-- The text of an item hangs under its first line. -/
theorem splitOn_hang_of_marker (column : Nat) {marker : Text} (h : '\n' ∉ marker) (t : Text) :
    (Text.spaces column ++ marker ++
        Text.hang (Text.spaces column ++ marker).length t).splitOn '\n' =
      textLines column marker t := by
  obtain ⟨first, rest, ht⟩ := List.exists_cons_of_ne_nil (List.splitOn_ne_nil '\n' t)
  have hlen : (Text.spaces column ++ marker).length = column + marker.length := by
    rw [List.length_append, Text.spaces, List.length_replicate]
  have hfront : '\n' ∉ Text.spaces column ++ marker := by
    rw [List.mem_append]
    exact not_or.2 ⟨Text.not_mem_spaces column, h⟩
  rw [Text.splitOn_append_of_not_mem hfront (Text.splitOn_hang _ ht), textLines, ht, hlen]

/-- A list that has items has a first line, which is not empty. -/
theorem exists_itemLines_eq_cons (text : Node → Text) (depth : Nat) (kind : Kind) (k : Nat)
    {items : List Node} (h : items ≠ []) :
    ∃ first rest, itemLines text depth kind k items = first :: rest ∧ first ≠ [] := by
  match items with
  | [] => exact absurd rfl h
  | .mk _ fields blocks :: others =>
    obtain ⟨first, rest, ht⟩ :=
      List.exists_cons_of_ne_nil (List.splitOn_ne_nil '\n' (fields.text.getD []))
    refine ⟨_, _, by rw [itemLines, textLines, ht]; rfl, ?_⟩
    exact List.append_ne_nil_of_left_ne_nil
      (List.append_ne_nil_of_right_ne_nil _ (itemMarker_ne_nil kind k)) _

/-- The context of the blocks in the items of a list. -/
theorem within_within_listItem {kind : Kind} (h : kind.isList = true) (c : Context) :
    (c.within kind).within (.known .listItem) = { c with inItem := true } := by
  cases kind with
  | other name unknown => cases h
  | known k =>
    cases k with
    | olist => simp [Context.within]
    | ulist => simp [Context.within]
    | _ => cases h

end

mutual

/-- **A list at a depth is laid out as such.** It stands inside an item, or it
is the outermost one. -/
theorem splitOn_render_of_isNested {s : Setting} {c : Context} {text : Node → Text} {depth : Nat}
    {node : Node} (h : IsNested s { c with inItem := true } text depth node)
    (hdepth : c.inItem = false → depth = 1) :
    ∃ t, render s c node = .ok t ∧ t ≠ [] ∧ t.splitOn '\n' = listLines text depth node := by
  match node with
  | .mk kind fields items =>
    obtain ⟨hlist, hlevel, hitems, hnested⟩ := h
    -- a list is moved by its level, or not at all where that is one
    have hindent : listIndent c fields = depthColumn depth := by
      rw [listIndent, depthColumn]
      cases hin : c.inItem with
      | true => rw [if_pos rfl, hlevel]
      | false => rw [if_neg Bool.false_ne_true, hdepth hin]
    rw [← within_within_listItem hlist] at hnested
    obtain ⟨ts, hts, hlines, hlen⟩ := itemTexts_of_areItems kind 1 hnested
    obtain ⟨first, rest, hcons, hfirst⟩ :=
      exists_itemLines_eq_cons text depth kind 1 hitems
    have hne : ts ≠ [] := by
      intro hnil
      rw [hnil, List.length_nil] at hlen
      exact hitems (List.eq_nil_of_length_eq_zero hlen.symm)
    have hsplit : (Text.unlines ts).splitOn '\n' = listLines text depth (.mk kind fields items) := by
      rw [Text.splitOn_unlines hne, hlines, listLines]
    refine ⟨Text.unlines ts, ?_, ?_, hsplit⟩
    · have hempty : (annotateAll s (c.within kind) items).isEmpty = false := by
        cases items with
        | nil => exact absurd rfl hitems
        | cons item rest => rfl
      rw [render, annotate, Rendered.outcome, rule_of_isList hlist, hindent, list, hempty,
        if_neg Bool.false_ne_true, hts]
      rfl
    · intro hnil
      rw [hnil, listLines, hcons, List.splitOn_nil] at hsplit
      exact hfirst (List.cons.inj hsplit).1.symm

/-- The items of a list are laid out one after the other. -/
theorem itemTexts_of_areItems {s : Setting} {c : Context} {text : Node → Text} {depth : Nat}
    (kind : Kind) (k : Nat) {items : List Node}
    (h : AreItems s (c.within (.known .listItem)) text depth items) :
    ∃ ts, itemTexts (fun k => Text.spaces (depthColumn depth) ++ itemMarker kind k) k
        (annotateAll s c items) = .ok ts ∧
      ts.flatMap (·.splitOn '\n') = itemLines text depth kind k items ∧ ts.length = items.length := by
  match items with
  | [] => exact ⟨[], rfl, by rw [itemLines]; rfl, rfl⟩
  | .mk itemKind fields blocks :: rest =>
    rw [AreItems] at h
    obtain ⟨rfl, hblocks, hrest⟩ := h
    obtain ⟨texts, htexts, hlines⟩ := texts_of_areBlocks rfl hblocks
    obtain ⟨ts, hts, hrows, hlen⟩ := itemTexts_of_areItems kind (k + 1) hrest
    obtain ⟨marker, hmarker⟩ :
        ∃ marker, marker = Text.spaces (depthColumn depth) ++ itemMarker kind k := ⟨_, rfl⟩
    have hcolumn : marker.length = depthColumn depth + (itemMarker kind k).length := by
      rw [hmarker, List.length_append, Text.spaces, List.length_replicate]
    have htext := splitOn_hang_of_marker (depthColumn depth) (not_mem_itemMarker kind k)
      (fields.text.getD [])
    rw [← hmarker] at htext
    refine ⟨(marker ++ Text.hang marker.length (fields.text.getD []) ++
      (List.zipWith (itemBlock marker.length) ((annotateAll s (c.within (.known .listItem))
        blocks).map Rendered.kind) texts).flatten) :: ts, ?_, ?_, ?_⟩
    · rw [annotateAll, annotate, itemTexts, item, htexts, hts, ← hmarker]
      rfl
    · rw [List.flatMap_cons, hlines, htext, hrows, itemLines, hcolumn]
    · rw [List.length_cons, List.length_cons, hlen]

/-- Behind a text, each block of an item adds its lines. -/
theorem texts_of_areBlocks {s : Setting} {c : Context} {text : Node → Text} {depth : Nat}
    (hc : c.inItem = true) {blocks : List Node} (h : AreBlocks s c text depth blocks) :
    ∃ texts, Rendered.texts (annotateAll s c blocks) = .ok texts ∧
      ∀ (n : Nat) (front : Text),
        (front ++ (List.zipWith (itemBlock n) ((annotateAll s c blocks).map Rendered.kind)
            texts).flatten).splitOn '\n' = front.splitOn '\n' ++ blockLines text n depth blocks := by
  match blocks with
  | [] =>
    refine ⟨[], rfl, fun n front => ?_⟩
    rw [blockLines, List.append_nil]
    exact congrArg _ (List.append_nil front)
  | block :: rest =>
    rw [AreBlocks] at h
    obtain ⟨hblock, hrest⟩ := h
    obtain ⟨texts, htexts, hlines⟩ := texts_of_areBlocks hc hrest
    have hkind : (annotate s c block).kind = block.kind := by
      cases block
      rfl
    -- what the block comes to, and the lines that it adds behind a text
    obtain ⟨t, ht, hadds⟩ : ∃ t, render s c block = .ok t ∧ ∀ (n : Nat) (front : Text),
        (front ++ itemBlock n block.kind t).splitOn '\n' = front.splitOn '\n' ++
          if block.kind.isList then listLines text depth block else shiftedLines n (text block) := by
      by_cases hlist : block.kind.isList = true
      · rw [if_pos hlist] at hblock
        have hcontext : c = { c with inItem := true } := by
          rw [← hc]
        rw [hcontext] at hblock
        obtain ⟨t, ht, hne, hsplit⟩ := splitOn_render_of_isNested hblock
          (fun hout => absurd (hc.symm.trans hout) (by decide))
        refine ⟨t, ht, fun n front => ?_⟩
        rw [itemBlock, if_neg (by rwa [List.isEmpty_iff]), if_pos hlist, if_pos hlist,
          List.splitOn_append_cons_self, hsplit]
      · rw [if_neg hlist] at hblock
        refine ⟨text block, hblock, fun n front => ?_⟩
        rw [itemBlock, if_neg hlist, if_neg hlist, shiftedLines]
        by_cases hempty : (text block).isEmpty = true
        · rw [if_pos hempty, if_pos hempty, List.append_nil, List.append_nil]
        · rw [if_neg hempty, if_neg hempty, List.splitOn_append_cons_self, Text.splitOn_indent]
    refine ⟨t :: texts, ?_, fun n front => ?_⟩
    · rw [annotateAll, Rendered.texts, List.mapM_cons, ← Rendered.texts, htexts, ← render, ht]
      rfl
    · rw [annotateAll, List.map_cons, List.zipWith_cons_cons, List.flatten_cons, hkind,
        ← List.append_assoc, hlines, hadds, blockLines, List.append_assoc]

end

end Render

namespace Outline

open Render

/-- **The lines of nested lists.** Take a list at any index of a document in
which each list has items, has items only, and stands on the level of its
depth, and whose other blocks come to their texts. It is rendered, and the
lines of the rendering are those of its items, laid out by their depths and
their markers. As the outermost list stands on the first level, it makes no
difference what is around it. -/
theorem splitOn_renderAt?_of_isNested {s : Setting} {root list : Node} {i : Nat}
    {text : Node → Text} (hlist : (ofTree root).tree? i = some list)
    (hnested : IsNested s { (ofTree root).context i with inItem := true } text 1 list) :
    ∃ t, (ofTree root).renderAt? s i none = some (.ok t) ∧
      t.splitOn '\n' = listLines text 1 list := by
  obtain ⟨parent, node, hn⟩ := exists_holds (lt_size_of_tree? hlist)
  have hnode : node = list := by
    rw [hn.tree?] at hlist
    exact Option.some.inj hlist
  rw [hnode] at hn
  obtain ⟨t, ht, -, hsplit⟩ := splitOn_render_of_isNested hnested fun _ => rfl
  refine ⟨t, ?_, hsplit⟩
  rw [hn.renderAt?, Option.getD_none, renderAs_kind, ht]

/-! An ordered list of ten items. The text of the last one has two lines, and
under it stand a block with an empty line, an unordered list with a list
inside, and a block that leaves nothing. -/

/-- An item of a list. -/
def itemOf (t : Text) (blocks : List Node) : Node :=
  ((Node.ofKind (.known .listItem)).withText t).addChildren blocks

/-- A list of a level. -/
def listOf (kind : Known) (level : UInt64) (items : List Node) : Node :=
  ((Node.ofKind (.known kind)).withLevel level).addChildren items

/-- The ten items. -/
def tenItems : Node :=
  listOf .olist 1 (List.replicate 9 (itemOf "i" []) ++
    [itemOf "ten\nmore"
      [(Node.ofKind (.known .literal)).addLines ["p", "", "q"],
        listOf .ulist 2 [itemOf "x" [listOf .olist 3 [itemOf "y\n" []]], itemOf [] []],
        Node.ofKind (.known .pageBreak)]])

/-- The list in a section of a document. -/
def tenItemsInSection : Node :=
  (Node.ofKind (.known .document)).addChildren
    [(Node.ofKind (.known .section)).addChildren [tenItems]]

/-- The texts of the blocks that are no lists. -/
def literalText (block : Node) : Text :=
  if block.kind = .known .literal then "```\np\n\nq\n```" else []

/-- The lines of the ten items. -/
theorem splitOn_renderAt?_tenItems :
    ∃ t, (ofTree tenItemsInSection).renderAt? ⟨.standard, .empty⟩ 2 none = some (.ok t) ∧
      t.splitOn '\n' = ["1. i", "2. i", "3. i", "4. i", "5. i", "6. i", "7. i", "8. i", "9. i",
        "10. ten", "    more", "    ```", "    p", "", "    q", "    ```", "  - x", "    1. y",
        "       ", "  - "].map String.toList := by
  have htree : (ofTree tenItemsInSection).tree? 2 = some tenItems :=
    (holds_ofTree tenItemsInSection).holdsAll.1.holdsAll.1.tree?
  have hnested : IsNested ⟨.standard, .empty⟩
      { (ofTree tenItemsInSection).context 2 with inItem := true } literalText 1 tenItems := by
    -- the two blocks that are no lists come to their texts
    have hblocks (c : Context) :
        render ⟨.standard, .empty⟩ c ((Node.ofKind (.known .literal)).addLines ["p", "", "q"]) =
            .ok (literalText ((Node.ofKind (.known .literal)).addLines ["p", "", "q"])) ∧
          render ⟨.standard, .empty⟩ c (Node.ofKind (.known .pageBreak)) =
            .ok (literalText (Node.ofKind (.known .pageBreak))) := ⟨rfl, rfl⟩
    simpa [tenItems, listOf, itemOf, List.replicate, Node.withLevel, Node.withText, Node.addLines,
      Node.modifyFields, Node.addChildren, Node.ofKind, Node.kind, Kind.isList, IsNested, AreItems,
      AreBlocks] using hblocks { (ofTree tenItemsInSection).context 2 with inItem := true }
  have hlines : listLines literalText 1 tenItems = ["1. i", "2. i", "3. i", "4. i", "5. i", "6. i",
        "7. i", "8. i", "9. i", "10. ten", "    more", "    ```", "    p", "", "    q", "    ```",
        "  - x", "    1. y", "       ", "  - "].map String.toList := by decide +kernel
  rw [← hlines]
  exact splitOn_renderAt?_of_isNested htree hnested

end Outline

end Treedown

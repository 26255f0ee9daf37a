import Mathlib.Data.List.Basic
import Treedown.Proofs.Node.Preorder
import Treedown.Proofs.Table.Source
import Treedown.Render.Basic
/-!
# Rendering — the grids of a tree

A rendering looks at the grid of a node only where the node is a table. So
when all grids of a tree are changed and its tables still come to the same,
the whole tree does (`annotate_mapGrids`); options being equal, this holds
across different files too. Taking the sources away is such a change: it
alters only tables that would have been rebuilt (`table_withoutSource`).
A tree in which no source is of use is therefore rendered as if it had
none, and without rebuilding no file has a say.
-/

namespace Treedown

/-- The fields with another grid. -/
def Fields.mapGrid (h : Grid → Grid) (f : Fields) : Fields :=
  { f with grid := f.grid.map h }

namespace Node

mutual

/-- **A tree with every grid changed.** -/
def mapGrids (h : Grid → Grid) : Node → Node
  | .mk kind fields children => .mk kind (fields.mapGrid h) (mapGridsAll h children)

/-- Several trees with every grid changed. -/
def mapGridsAll (h : Grid → Grid) : List Node → List Node
  | [] => []
  | node :: rest => mapGrids h node :: mapGridsAll h rest

end

mutual

theorem mapGrids_id (node : Node) : node.mapGrids id = node := by
  match node with
  | .mk kind fields children =>
    rw [mapGrids, mapGridsAll_id, Fields.mapGrid, Option.map_id]
    rfl

theorem mapGridsAll_id (nodes : List Node) : mapGridsAll id nodes = nodes := by
  match nodes with
  | [] => rfl
  | node :: rest => rw [mapGridsAll, mapGrids_id, mapGridsAll_id]

end

/-- **A tree without any source of a table.** -/
def withoutSources : Node → Node :=
  mapGrids ({ · with source := none })

end Node

namespace Render

namespace Rendered

mutual

/-- A tree with outcomes, with every grid changed and the outcomes kept. -/
def mapGrids (h : Grid → Grid) : Rendered → Rendered
  | .mk kind fields outcome children =>
    .mk kind (fields.mapGrid h) outcome (mapGridsAll h children)

/-- Several such trees. -/
def mapGridsAll (h : Grid → Grid) : List Rendered → List Rendered
  | [] => []
  | r :: rest => mapGrids h r :: mapGridsAll h rest

end

end Rendered

open Rendered

/-! ## What rules look at -/

section

variable (h : Grid → Grid) (nodes : List Rendered)

theorem mapGridsAll_eq_map : mapGridsAll h nodes = nodes.map (mapGrids h) := by
  induction nodes with
  | nil => rfl
  | cons r rest ih => rw [mapGridsAll, ih, List.map_cons]

@[simp] theorem kind_mapGrids (r : Rendered) : (r.mapGrids h).kind = r.kind := by
  cases r
  rfl

@[simp] theorem outcome_mapGrids (r : Rendered) : (r.mapGrids h).outcome = r.outcome := by
  cases r
  rfl

@[simp] theorem isLonePicture_mapGrids (r : Rendered) :
    isLonePicture (r.mapGrids h) = isLonePicture r := by
  cases r
  rfl

@[simp] theorem isEmpty_mapGridsAll : (mapGridsAll h nodes).isEmpty = nodes.isEmpty := by
  cases nodes <;> rfl

@[simp] theorem texts_mapGridsAll :
    Rendered.texts (mapGridsAll h nodes) = Rendered.texts nodes := by
  rw [mapGridsAll_eq_map, Rendered.texts, Rendered.texts]
  induction nodes with
  | nil => rfl
  | cons r rest ih => rw [List.map_cons, List.mapM_cons, List.mapM_cons, ih, outcome_mapGrids]

@[simp] theorem map_kind_mapGridsAll :
    (mapGridsAll h nodes).map Rendered.kind = nodes.map Rendered.kind := by
  rw [mapGridsAll_eq_map, List.map_map]
  exact List.map_congr_left fun r _ => kind_mapGrids h r

/-- An item is made of its text and of what became of its blocks. -/
theorem item_mapGrids (marker : Text) (f : Fields) :
    item marker (f.mapGrid h) (mapGridsAll h nodes) = item marker f nodes := by
  rw [item, item, texts_mapGridsAll, map_kind_mapGridsAll]
  rfl

theorem itemTexts_mapGrids (marker : Nat → Text) (number : Nat) :
    itemTexts marker number (mapGridsAll h nodes) = itemTexts marker number nodes := by
  induction nodes generalizing number with
  | nil => rfl
  | cons r rest ih =>
    match r with
    | .mk kind fields outcome children =>
      rw [mapGridsAll, mapGrids, itemTexts, itemTexts, ih, item_mapGrids]

theorem list_mapGrids (marker : Nat → Text) (kind : Kind) :
    list marker kind (mapGridsAll h nodes) = list marker kind nodes := by
  rw [list, list, isEmpty_mapGridsAll, itemTexts_mapGrids]

theorem promote?_mapGrids :
    promote? (mapGridsAll h nodes) =
      (promote? nodes).map fun (title, blocks) => (title, mapGridsAll h blocks) := by
  cases nodes with
  | nil => rfl
  | cons r rest =>
    match r with
    | .mk kind fields outcome children =>
      rw [mapGridsAll, mapGrids, promote?, promote?]
      by_cases hk : kind = .known .section
      · rw [if_pos hk, if_pos hk, Option.map_map]
        simp only [mapGridsAll_eq_map, ← List.map_append]
        rfl
      · rw [if_neg hk, if_neg hk]
        rfl

/-- A document finds the same title over the same blocks. -/
theorem titled_mapGrids (c : Context) :
    titled c (mapGridsAll h nodes) = ((titled c nodes).1, mapGridsAll h (titled c nodes).2) := by
  unfold titled
  cases c.title with
  | some title => rfl
  | none =>
    simp only [promote?_mapGrids]
    cases promote? nodes <;> rfl

theorem document_mapGrids (c : Context) :
    document c (mapGridsAll h nodes) = document c nodes := by
  have hfilter (blocks : List Rendered) :
      (mapGridsAll h blocks).filter (·.kind ≠ .known .header) =
        mapGridsAll h (blocks.filter (·.kind ≠ .known .header)) := by
    rw [mapGridsAll_eq_map, mapGridsAll_eq_map, List.filter_map]
    exact congrArg _ (List.filter_congr fun r _ => by simp)
  have hlast (blocks : List Rendered) :
      (mapGridsAll h blocks).getLast?.any isLonePicture = blocks.getLast?.any isLonePicture := by
    rw [mapGridsAll_eq_map, List.getLast?_map]
    cases blocks.getLast? <;> simp
  unfold document
  rw [titled_mapGrids]
  simp only [hfilter]
  by_cases htitle : (titled c nodes).1.isSome = true
  · simp only [htitle, if_true, texts_mapGridsAll, hlast]
  · simp only [htitle, if_false, Bool.false_eq_true, texts_mapGridsAll, hlast]

end

/-- **A rule does not look at grids**, its own apart if the node is a table. -/
theorem rule_mapGrids {s₁ s₂ : Setting} (hoptions : s₁.options = s₂.options) (h : Grid → Grid)
    (c : Context) (kind : Kind) (f : Fields) (children : List Rendered)
    (htable : kind = .known .table → table s₂ kind (f.mapGrid h) = table s₁ kind f) :
    rule s₂ c kind kind (f.mapGrid h) (mapGridsAll h children) = rule s₁ c kind kind f children := by
  cases kind with
  | other name unknown => rfl
  | known k =>
    cases k with
    | document => exact document_mapGrids h children c
    | preamble => exact congrArg (Except.map Markup.joinBlocks) (texts_mapGridsAll h children)
    | «section» =>
      simp only [rule, sectionBlock, texts_mapGridsAll, ← hoptions]
      rfl
    | paragraph =>
      simp only [rule, paragraph, texts_mapGridsAll, isEmpty_mapGridsAll]
      rfl
    | olist => exact list_mapGrids h children _ _
    | ulist => exact list_mapGrids h children _ _
    | listItem =>
      simp only [rule, loneItem, texts_mapGridsAll]
      rfl
    | admonition =>
      simp only [rule, admonition, texts_mapGridsAll, isEmpty_mapGridsAll]
      rfl
    | «example» => simp only [rule, exampleBlock, texts_mapGridsAll, map_kind_mapGridsAll]
    | video =>
      simp only [rule, ← hoptions]
      rfl
    | table => exact htable rfl
    | _ => rfl

mutual

/-- **When the tables of a tree come to the same, the tree does.** Every grid
may be changed, and so may the files; the outcome of every node stays. -/
theorem annotate_mapGrids {s₁ s₂ : Setting} (hoptions : s₁.options = s₂.options) (h : Grid → Grid)
    (c : Context) (node : Node)
    (htables : ∀ n ∈ node.preorder, n.kind = .known .table →
      table s₂ n.kind (n.fields.mapGrid h) = table s₁ n.kind n.fields) :
    annotate s₂ c (node.mapGrids h) = (annotate s₁ c node).mapGrids h := by
  match node with
  | .mk kind fields children =>
    rw [Node.preorder, List.forall_mem_cons] at htables
    obtain ⟨hown, hbelow⟩ := htables
    rw [Node.mapGrids, annotate, annotate, mapGrids,
      annotateAll_mapGrids hoptions h _ children hbelow, rule_mapGrids hoptions h c kind fields _ hown]

theorem annotateAll_mapGrids {s₁ s₂ : Setting} (hoptions : s₁.options = s₂.options)
    (h : Grid → Grid) (c : Context) (nodes : List Node)
    (htables : ∀ n ∈ Node.preorderAll nodes, n.kind = .known .table →
      table s₂ n.kind (n.fields.mapGrid h) = table s₁ n.kind n.fields) :
    annotateAll s₂ c (Node.mapGridsAll h nodes) = mapGridsAll h (annotateAll s₁ c nodes) := by
  match nodes with
  | [] => rfl
  | node :: rest =>
    rw [Node.preorderAll, List.forall_mem_append] at htables
    rw [Node.mapGridsAll, annotateAll, annotateAll, mapGridsAll,
      annotate_mapGrids hoptions h c node htables.1,
      annotateAll_mapGrids hoptions h c rest htables.2]

end

theorem renderTree_mapGrids (s₁ s₂ : Setting) (hoptions : s₁.options = s₂.options) (h : Grid → Grid)
    (root : Node)
    (htables : ∀ n ∈ root.preorder, n.kind = .known .table →
      table s₂ n.kind (n.fields.mapGrid h) = table s₁ n.kind n.fields) :
    renderTree s₂ (root.mapGrids h) = renderTree s₁ root := by
  have hcontext : Context.ofRoot (root.mapGrids h).fields = .ofRoot root.fields := by
    cases root
    rfl
  rw [renderTree, renderTree, render, render, hcontext,
    annotate_mapGrids hoptions h _ root htables, outcome_mapGrids]

/-! ## Taking the sources away -/

/-- A table that is not rebuilt is laid out from its cells. -/
theorem table_of_tableLayout_eq_error {s : Setting} {kind : Kind} {f : Fields}
    (h : ∃ reason, tableLayout s f = .error reason) :
    table s kind f =
      if f.cells.columnCount = 0 then .error ⟨kind, .noColumns⟩
      else .ok (Table.cellLayout f.cells f.role?) := by
  obtain ⟨reason, h⟩ := h
  rw [table, h]

/-- **A table whose source is of no use** comes to the same without it. -/
theorem table_withoutSource {s : Setting} {kind : Kind} {f : Fields}
    (h : s.options.rebuildTables = false ∨ Table.Unusable s.files f.cells) :
    table s kind (f.mapGrid ({ · with source := none })) = table s kind f := by
  have hcells : (f.mapGrid ({ · with source := none })).cells =
      { f.cells with source := none } := by
    rw [Fields.cells, Fields.cells, Fields.mapGrid]
    cases f.grid <;> rfl
  have hnone : ∃ reason, tableLayout s (f.mapGrid ({ · with source := none })) = .error reason := by
    refine Table.layout_eq_error_iff.2 (.inr (.noSource ?_))
    rw [hcells]
  rw [table_of_tableLayout_eq_error hnone,
    table_of_tableLayout_eq_error (Table.layout_eq_error_iff.2 h), hcells]
  rfl

/-- **Sources matter only where they are of use.** Where tables are not
rebuilt, or no table of a tree has a source that is of use, the tree is
rendered as if it had no sources; and where tables are not rebuilt, it is
rendered alike whatever the files are. -/
theorem renderTree_withoutSources {s : Setting} {root : Node}
    (h : s.options.rebuildTables = false ∨ ∀ node ∈ root.preorder, node.kind = .known .table →
      Table.Unusable s.files node.fields.cells) :
    renderTree s root = renderTree s root.withoutSources ∧
      (s.options.rebuildTables = false →
        ∀ files, renderTree ⟨s.options, files⟩ root = renderTree s root) := by
  constructor
  · refine (renderTree_mapGrids s s rfl _ root fun node hnode hkind => ?_).symm
    exact table_withoutSource (h.imp_right fun h => h node hnode hkind)
  · intro hoff files
    have hsame := renderTree_mapGrids s ⟨s.options, files⟩ rfl id root
    rw [Node.mapGrids_id] at hsame
    refine hsame fun node _ _ => ?_
    have hfields : node.fields.mapGrid id = node.fields := by
      rw [Fields.mapGrid, Option.map_id]
      rfl
    have hlayout (s : Setting) (hs : s.options.rebuildTables = false) :
        ∃ reason, tableLayout s node.fields = .error reason :=
      Table.layout_eq_error_iff.2 (.inl hs)
    rw [hfields, table_of_tableLayout_eq_error (hlayout ⟨s.options, files⟩ hoff),
      table_of_tableLayout_eq_error (hlayout s hoff)]

/-! Five tables, each with something else that keeps its source from being
of use, at different places of a document. -/

/-- A table with some columns, a header or none, and a source or none. -/
def sourcedTable (columns : UInt64) (header : Option (List Text)) (source : Option Origin) : Node :=
  (Node.ofKind (.known .table)).withGrid ⟨header, [["a", "b"]], some columns, source⟩

/-- A source that is given by its lines. -/
def givenLines (lines : List Text) : Origin :=
  ⟨none, some 1, some lines⟩

/-- Three columns, no source, a file that is not there, one fence only, and a
header without rows. -/
def mixedTables : Node :=
  (Node.ofKind (.known .document)).addChildren
    [sourcedTable 3 none (some (givenLines ["|===", "|x|y", "|==="])),
      (Node.ofKind (.known .section)).addChildren
        [sourcedTable 2 none none, sourcedTable 2 none (some ⟨some "gone.adoc", none, none⟩),
          (Node.ofKind (.known .example)).addChildren
            [sourcedTable 2 none (some (givenLines ["|===", "|x|y"])),
              sourcedTable 2 (some ["k", "v"]) (some (givenLines ["|===", "|k|v", "x", "|==="]))]]]

/-- The tables are rendered as if they had no sources. -/
theorem renderTree_withoutSources_mixedTables :
    (∀ node ∈ mixedTables.preorder, node.kind = .known .table →
        Table.Unusable .empty node.fields.cells) ∧
      renderTree ⟨.standard, .empty⟩ mixedTables =
        renderTree ⟨.standard, .empty⟩ mixedTables.withoutSources := by
  have hgone : Files.empty.readText "gone.adoc" = .error .notFound := by decide
  have hfenced : Table.Fenced ["|===", "|k|v", "x", "|==="] 1 ["|k|v", "x"] :=
    ⟨[], [], "|===".toList, "|===".toList, [], rfl, rfl, by decide, by decide, by simp, by decide⟩
  have hmixed : ∀ node ∈ mixedTables.preorder, node.kind = .known .table →
      Table.Unusable .empty node.fields.cells := by
    intro node hnode hkind
    simp only [mixedTables, sourcedTable, Node.ofKind, Node.addChildren, Node.withGrid,
      Node.modifyFields, Node.preorder, Node.preorderAll, List.nil_append, List.append_nil,
      List.cons_append, List.mem_cons, List.not_mem_nil, or_false] at hnode
    rcases hnode with rfl | rfl | rfl | rfl | rfl | rfl | rfl | rfl
    · cases hkind
    · exact .columns (by decide)
    · cases hkind
    · exact .noSource rfl
    · refine .unreadable rfl fun lines hgives => ?_
      rcases hgives with hlines | ⟨-, path, t, hpath, hread, -⟩
      · cases hlines
      · rw [← Option.some.inj hpath, hgone] at hread
        cases hread
    · cases hkind
    · exact .noFences rfl (.inl rfl) (by decide)
    · exact .noEntries rfl (.inl rfl) hfenced (by decide)
  exact ⟨hmixed, (renderTree_withoutSources (.inr hmixed)).1⟩

end Render

end Treedown

import Mathlib.Logic.Relation
import Treedown.Proofs.Render.Grids
import Treedown.Proofs.Text.Lines
/-!
# Rendering — sources in the tree and in files

The source of a table may stand in the tree or in a file, and it is the same
source either way. `Table.embed` takes the lines of a file into the tree, and
a tree with all its sources embedded is rendered to the same
(`renderTree_embed`), since a rendering looks at a source for its fenced span
alone. Two trees of which one names a file where the other holds its lines
come to the same tree when their sources are embedded
(`mapGrids_embed_of_movesSource`), so they are rendered alike, whichever line
ends the file has and from whichever line on it is read.
-/

namespace Treedown

namespace Table

/-- **The source in the tree itself.** What cannot be read stays where it
is. -/
def embed (files : Files) (origin : Origin) : Origin :=
  match originLines files origin with
  | .ok lines => ⟨none, origin.line, some lines⟩
  | .error _ => origin

variable {files : Files} {origin : Origin} {lines : List Text}

theorem embed_of_gives (h : Gives files origin lines) :
    embed files origin = ⟨none, origin.line, some lines⟩ := by
  rw [embed, originLines_eq_ok_iff.2 h]

/-- **The span that is found is the same.** -/
theorem source_embed (files : Files) (origin : Origin) :
    source files (embed files origin) = source files origin := by
  rw [embed]
  cases hlines : originLines files origin with
  | ok lines =>
    rw [source, source, hlines]
    rfl
  | error fault => rfl

end Table

/-- A grid with its source in the tree. -/
def Grid.embed (files : Files) (g : Grid) : Grid :=
  { g with source := g.source.map (Table.embed files) }

/-- The grid is laid out alike. -/
theorem Table.layout_embed (rebuild : Bool) (files : Files) (g : Grid) (role : Option Text) :
    layout rebuild files (g.embed files) role = layout rebuild files g role := by
  unfold layout
  have hcolumns : (g.embed files).columnCount = g.columnCount := rfl
  rw [hcolumns]
  cases hsource : g.source with
  | none =>
    have hembed : (g.embed files).source = none := by rw [Grid.embed, hsource]; rfl
    rw [hembed]
  | some origin =>
    have hembed : (g.embed files).source = some (embed files origin) := by
      rw [Grid.embed, hsource]
      rfl
    rw [hembed]
    dsimp only
    rw [source_embed]
    rfl

namespace Render

/-- A table comes to the same. -/
theorem table_embed (s : Setting) (kind : Kind) (f : Fields) :
    table s kind (f.mapGrid (·.embed s.files)) = table s kind f := by
  have hcells : (f.mapGrid (·.embed s.files)).cells = f.cells.embed s.files := by
    rw [Fields.cells, Fields.cells, Fields.mapGrid]
    cases f.grid <;> rfl
  rw [table, tableLayout, hcells, Table.layout_embed, table, tableLayout]
  rfl

/-- **And so does a tree.** -/
theorem renderTree_embed (s : Setting) (root : Node) :
    renderTree s (root.mapGrids (·.embed s.files)) = renderTree s root :=
  renderTree_mapGrids s s rfl _ root fun node _ _ => table_embed s node.kind node.fields

end Render

namespace Node

variable {files : Files} {before after : Node}

/-- **The source of one table goes into a file.** Its lines are no longer held
by the tree; a file that spells them is named instead, and it is read from the
same line on. -/
inductive MovesSource (files : Files) : Node → Node → Prop
  | here {kind : Kind} {f : Fields} {children : List Node} {grid : Grid} {given : Option Text}
      {start : Option UInt64} {lines : List Text} {path t : Text} (hgrid : f.grid = some grid)
      (hsource : grid.source = some ⟨given, start, some lines⟩)
      (hlines : ∀ line ∈ lines, '\n' ∉ line ∧ line.getLast? ≠ some '\r')
      (hread : files.readText path = .ok t) (hspells : Text.Spells lines t) :
      MovesSource files (.mk kind f children)
        (.mk kind { f with grid := some { grid with source := some ⟨some path, start, none⟩ } }
          children)
  | inside {kind : Kind} {f : Fields} (front : List Node) {back : List Node} {node moved : Node}
      (h : MovesSource files node moved) :
      MovesSource files (.mk kind f (front ++ node :: back)) (.mk kind f (front ++ moved :: back))

theorem mapGridsAll_append_cons (h : Grid → Grid) (front back : List Node) (node : Node) :
    mapGridsAll h (front ++ node :: back) =
      mapGridsAll h front ++ node.mapGrids h :: mapGridsAll h back := by
  induction front with
  | nil => rfl
  | cons first rest ih => rw [List.cons_append, mapGridsAll, ih, mapGridsAll, List.cons_append]

/-- **The two trees differ only in where the source stands.** -/
theorem mapGrids_embed_of_movesSource (h : MovesSource files before after) :
    before.mapGrids (·.embed files) = after.mapGrids (·.embed files) := by
  induction h with
  | @here kind f children grid given start lines path t hgrid hsource hlines hread hspells =>
    have hheld : Table.embed files ⟨given, start, some lines⟩ = ⟨none, start, some lines⟩ :=
      Table.embed_of_gives (.inl rfl)
    have hfile : Table.embed files ⟨some path, start, none⟩ = ⟨none, start, some lines⟩ :=
      Table.embed_of_gives
        (.inr ⟨rfl, path, t, rfl, hread, (Text.lines_of_spells hspells hlines).symm⟩)
    have hsame : grid.embed files =
        Grid.embed files { grid with source := some ⟨some path, start, none⟩ } := by
      rw [Grid.embed, Grid.embed, hsource, Option.map_some, Option.map_some, hheld, hfile]
    rw [mapGrids, mapGrids, Fields.mapGrid, Fields.mapGrid, hgrid, Option.map_some,
      Option.map_some, hsame]
  | inside front _ ih => rw [mapGrids, mapGrids, mapGridsAll_append_cons, mapGridsAll_append_cons, ih]

end Node

namespace Render

open Node

/-- **It makes no difference whether a source stands in the tree or in a
file.** Tables may have their lines moved into files, one after the other: as
long as a file spells the lines that the tree held, with line feeds, carriage
returns and line feeds or some of both, the tree is rendered to the same text
or has the same defect. -/
theorem renderTree_of_movesSource {s : Setting} {before after : Node}
    (h : Relation.ReflTransGen (MovesSource s.files) before after) :
    renderTree s after = renderTree s before := by
  induction h with
  | refl => rfl
  | tail _ hstep ih =>
    rw [← ih, ← renderTree_embed, ← mapGrids_embed_of_movesSource hstep, renderTree_embed]

/-- The lines of a source, with text and an empty line in front of the
table. -/
def limitLines : List Text :=
  ["= Limits", [], "|===", "|Name |Limit", "|depth |low", "or none", "|==="]

/-- A text that spells them. Some end in a line feed alone. -/
def limitText : Text :=
  "= Limits\r\n\n|===\n|Name |Limit\r\n|depth |low\nor none\r\n|===\n"

/-- The file that holds it. -/
def limitFiles : Files :=
  .ofList [("doc/limits.adoc", .text limitText)]

/-- The fields of a table with this source. -/
def limitTable (origin : Origin) : Fields :=
  { Fields.empty with grid := some ⟨some ["Name", "Limit"], [], none, some origin⟩ }

/-- The table in a preamble, behind another block. -/
def limitDocument (origin : Origin) : Node :=
  .mk (.known .document) .empty
    [.mk (.known .preamble) .empty
      [.ofKind (.known .thematicBreak), .mk (.known .table) (limitTable origin) []]]

/-- The table is the same when its lines are read from the file. -/
theorem renderTree_of_movesSource_limitDocument :
    Relation.ReflTransGen (MovesSource limitFiles) (limitDocument ⟨none, some 2, some limitLines⟩)
        (limitDocument ⟨some "doc/limits.adoc", some 2, none⟩) ∧
      renderTree ⟨.standard, limitFiles⟩ (limitDocument ⟨none, some 2, some limitLines⟩) =
        .ok (Text.unlines ["---", [], "<!-- multiline -->", "| Name  | Limit    |",
          "|-------|----------|", "| depth | low      |", "|       | or none  |"]) ∧
      renderTree ⟨.standard, limitFiles⟩ (limitDocument ⟨some "doc/limits.adoc", some 2, none⟩) =
        renderTree ⟨.standard, limitFiles⟩ (limitDocument ⟨none, some 2, some limitLines⟩) := by
  have hread : limitFiles.readText "doc/limits.adoc" = .ok limitText := by decide +kernel
  have hspells : Text.Spells limitLines limitText :=
    .returnFeed "= Limits" <| .feed [] <| .feed "|===" <| .returnFeed "|Name |Limit" <|
      .feed "|depth |low" <| .returnFeed "or none" <| .feed "|===" .nil
  have hmoves : MovesSource limitFiles (limitDocument ⟨none, some 2, some limitLines⟩)
      (limitDocument ⟨some "doc/limits.adoc", some 2, none⟩) :=
    .inside [] (.inside [.ofKind (.known .thematicBreak)]
      (.here (f := limitTable ⟨none, some 2, some limitLines⟩) rfl rfl (by decide) hread hspells))
  exact ⟨.single hmoves, by decide +kernel,
    renderTree_of_movesSource (s := ⟨.standard, limitFiles⟩) (.single hmoves)⟩

end Render

end Treedown

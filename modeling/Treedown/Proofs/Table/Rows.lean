import Treedown.Proofs.Markup.Quotation
import Treedown.Proofs.Table.Agreement
import Treedown.Proofs.Table.Source
import Treedown.Proofs.Text.Cut
import Treedown.Proofs.Text.Lines
/-!
# Tables — every row is one line

Under its style comment a table is written one row a line, and each line
stands between two bars (`Barred`). In the cell layout this holds whatever
the cells are, since a line feed in a cell becomes a space. The rebuilt
layout does not look for line feeds: the cells of its body come from lines
of the source, which hold none, and all that is read from such lines is
free of them as well (`Entry.Flat`, kept by one line at a time), but its
header comes from the grid as it is. `splitOn_table` therefore asks for a
header without line feeds, and only where the table is rebuilt.
-/

namespace Treedown

namespace Table

open Markup

/-- **A row as it is written**: one line between two bars. -/
structure Barred (line : Text) : Prop where
  oneLine : '\n' ∉ line
  head : line.head? = some '|'
  last : line.getLast? = some '|'

theorem barred_of_not_mem {core : Text} (h : '\n' ∉ core) : Barred ('|' :: core ++ ['|']) where
  oneLine :=
    List.not_mem_append (List.not_mem_cons_of_ne_of_not_mem (by decide) h) (by decide)
  head := rfl
  last := List.getLast?_concat

/-! ## Rows of both layouts -/

section

variable {t left right : Text} {cells : List Text}

theorem not_mem_padTo (w : Nat) (h : '\n' ∉ t) : '\n' ∉ t.padTo w :=
  List.not_mem_append h (Text.not_mem_spaces _)

theorem not_mem_intercalate_bar {ts : List Text} (h : ∀ t ∈ ts, '\n' ∉ t) :
    '\n' ∉ ['|'].intercalate ts :=
  Text.not_mem_intercalate (by decide) h

/-- A row of cells without line feeds. -/
theorem barred_rowLine (widths : List Nat) (h : ∀ cell ∈ cells, '\n' ∉ cell) :
    Barred (rowLine widths cells) := by
  refine barred_of_not_mem (not_mem_intercalate_bar fun t ht => ?_)
  rw [← List.map_uncurry_zip_eq_zipWith] at ht
  obtain ⟨⟨cell, width⟩, hpair, rfl⟩ := List.mem_map.1 ht
  exact List.not_mem_cons_of_ne_of_not_mem (by decide)
    (not_mem_padTo _ (h cell (List.of_mem_zip hpair).1))

theorem barred_ruleLine (widths : List Nat) : Barred (ruleLine widths) := by
  refine barred_of_not_mem (not_mem_intercalate_bar fun t ht hmem => ?_)
  obtain ⟨w, -, rfl⟩ := List.mem_map.1 ht
  exact absurd (List.eq_of_mem_replicate hmem) (by decide)

/-- A line of two cells is a row of two columns, the second of which has
one character more. -/
theorem pairLine_eq_rowLine (first second : Nat) (left right : Text) :
    pairLine first second left right = rowLine [first, second + 1] [left, right] := by
  simp [pairLine, rowLine, List.intercalate_cons_cons]

theorem rule_eq_ruleLine (first second : Nat) :
    ("|" : Text) ++ List.replicate first '-' ++ ("|" : Text) ++ List.replicate second '-' ++
      ("|" : Text) = ruleLine [first, second] := by
  simp [ruleLine, List.intercalate_cons_cons]

/-- A row of two cells without line feeds. -/
theorem barred_pairLine (first second : Nat) (hleft : '\n' ∉ left) (hright : '\n' ∉ right) :
    Barred (pairLine first second left right) := by
  rw [pairLine_eq_rowLine]
  exact barred_rowLine _ (List.forall_mem_cons.2 ⟨hleft, List.forall_mem_singleton.2 hright⟩)

end

/-! ## The cell layout -/

theorem not_mem_flatCell (cell : Text) : '\n' ∉ flatCell cell := by
  intro hmem
  obtain ⟨c, -, hc⟩ := List.mem_map.1 hmem
  by_cases h : c = '\n'
  · rw [if_pos h] at hc
    exact absurd hc (by decide)
  · rw [if_neg h] at hc
    exact h hc

theorem not_mem_fitRow (columns : Nat) (row : List Text) :
    ∀ cell ∈ fitRow columns row, '\n' ∉ cell := by
  intro cell hcell
  rcases List.mem_append.1 hcell with hcell | hcell
  · obtain ⟨old, -, rfl⟩ := List.mem_map.1 hcell
    exact not_mem_flatCell old
  · rw [List.eq_of_mem_replicate hcell]
    exact List.not_mem_nil

/-- **Every line of the cell layout is a row**, whatever the cells are. -/
theorem barred_cellLines (grid : Grid) : ∀ line ∈ cellLines grid, Barred line := by
  have hheaded (columns : Nat) (header : Option (List Text)) (rows : List (List Text)) :
      ∀ row ∈ (headed columns header rows).1 :: (headed columns header rows).2,
        ∀ cell ∈ row, '\n' ∉ cell := by
    have hfit (rows : List (List Text)) :
        ∀ row ∈ rows.map (fitRow columns), ∀ cell ∈ row, '\n' ∉ cell := fun row hrow => by
      obtain ⟨old, -, rfl⟩ := List.mem_map.1 hrow
      exact not_mem_fitRow columns old
    match header, rows with
    | some header, rows => exact hfit (header :: rows)
    | none, first :: rows => exact hfit (first :: rows)
    | none, [] =>
      refine List.forall_mem_singleton.2 fun cell hcell => ?_
      rw [List.eq_of_mem_replicate hcell]
      exact List.not_mem_nil
  obtain ⟨htop, hbody⟩ :=
    List.forall_mem_cons.1 (hheaded grid.columnCount grid.header grid.rows)
  refine List.forall_mem_cons.2 ⟨barred_rowLine _ htop, List.forall_mem_cons.2
    ⟨barred_ruleLine _, fun line hline => ?_⟩⟩
  obtain ⟨row, hrow, rfl⟩ := List.mem_map.1 hline
  exact barred_rowLine _ (hbody row hrow)

/-! ## What is read from lines -/

section

variable {line : Text} {lines : List Text} {e : Entry} {p : Progress}

/-- **No text of an entry holds a line feed.** -/
structure Entry.Flat (e : Entry) : Prop where
  name : '\n' ∉ e.name
  details : ∀ detail ∈ e.details, '\n' ∉ detail

/-- What is read so far holds no line feed. -/
def Progress.Flat (p : Progress) : Prop :=
  ∀ e ∈ p.entries, e.Flat

theorem dropCellSpec_subset (cell : Text) : dropCellSpec cell ⊆ cell := by
  unfold dropCellSpec
  dsimp only
  split
  · exact List.Subset.refl cell
  · exact fun c hc => (Text.dropEndWhile_prefix_self _ cell).subset (Text.trimEnd_subset _ hc)

/-- What an entry opens with is part of its line. -/
theorem flat_openEntry (h : '\n' ∉ line) : (openEntry line).Flat := by
  unfold openEntry
  split
  · rename_i cell inner hcut
    obtain ⟨-, rfl⟩ := Text.cutAt_eq_some_iff.1 hcut
    refine ⟨fun hmem => h (List.mem_append_left _ ?_), fun detail hdetail hmem => h ?_⟩
    · exact dropCellSpec_subset cell (Text.trim_subset _ hmem)
    · dsimp only at hdetail
      split at hdetail
      · cases hdetail
      · rw [List.mem_singleton.1 hdetail] at hmem
        exact List.mem_append_right _ (List.mem_cons_of_mem _ (Text.trim_subset inner hmem))
  · exact ⟨fun hmem => h (Text.trim_subset line hmem), fun _ hdetail => nomatch hdetail⟩

theorem dropCellStyle_subset (line : Text) : dropCellStyle line ⊆ line := by
  unfold dropCellStyle
  split
  · split
    · exact fun c hc => List.mem_cons_of_mem _ (List.mem_cons_of_mem _ hc)
    · exact List.Subset.refl _
  · exact List.Subset.refl _

theorem Entry.Flat.addLine (he : e.Flat) (h : '\n' ∉ line) : (e.addLine line).Flat := by
  unfold Entry.addLine
  dsimp only
  split
  · exact he
  · refine ⟨he.name, fun detail hdetail => ?_⟩
    rcases List.mem_append.1 hdetail with hdetail | hdetail
    · exact he.details detail hdetail
    · rw [List.mem_singleton.1 hdetail]
      exact fun hmem => h (dropCellStyle_subset line hmem)

/-- **A line keeps what is read free of line feeds.** -/
theorem Progress.Flat.readLine (hp : p.Flat) (h : '\n' ∉ line) : (p.readLine line).Flat := by
  have htrim : '\n' ∉ line.trimEnd := fun hmem => h (Text.trimEnd_subset line hmem)
  unfold Progress.readLine
  split
  · rename_i rest hbar
    rw [hbar] at htrim
    have hopen : (openEntry rest).Flat :=
      flat_openEntry fun hmem => htrim (List.mem_cons_of_mem _ hmem)
    split
    · exact hp
    · exact List.forall_mem_cons.2 ⟨hopen, hp⟩
    · exact List.forall_mem_cons.2 ⟨hopen, hp⟩
  · split
    · exact hp
    · split
      · exact hp
      · rename_i entry before hentries
        rw [Progress.Flat, hentries, List.forall_mem_cons] at hp
        exact List.forall_mem_cons.2 ⟨hp.1.addLine htrim, hp.2⟩

theorem Progress.Flat.foldl (hp : p.Flat) (h : ∀ line ∈ lines, '\n' ∉ line) :
    (lines.foldl Progress.readLine p).Flat := by
  induction lines generalizing p with
  | nil => exact hp
  | cons line rest ih =>
    obtain ⟨hline, hrest⟩ := List.forall_mem_cons.1 h
    exact ih (hp.readLine hline) hrest

/-! ## Blocks inside a cell -/

theorem codeLines_subset (lines : List Text) : codeLines lines ⊆ lines := by
  unfold codeLines
  split
  · exact List.Subset.refl lines
  · rename_i opening inside hopen
    intro line hline
    refine (List.dropWhile_suffix _).subset (hopen ▸ List.mem_cons_of_mem opening ?_)
    exact (List.takeWhile_prefix _).subset hline

/-- **A text with a caption**: letters, a colon and, behind white space, the
body. -/
structure Captioned (t caption body : Text) : Prop where
  written : ∃ gap : Text, gap.blank = true ∧ t = caption ++ ':' :: (gap ++ body)
  ne_nil : caption ≠ []
  letter : ∀ c ∈ caption, isAsciiLetter c = true
  start : ∀ c ∈ body.head?, isBlank c = false
  flat : '\n' ∉ body

/-- **The caption and the body that are found** are those of the text. -/
theorem captioned?_eq_some_iff {caption body : Text} :
    captioned? line = some (caption, body) ↔ Captioned line caption body := by
  constructor
  · intro h
    unfold captioned? at h
    split at h
    · rename_i rest hrest
      dsimp only at h
      split at h
      · cases h
      · rename_i hif
        obtain ⟨rfl, rfl⟩ := Prod.mk.inj (Option.some.inj h)
        rw [Bool.or_eq_true, not_or] at hif
        refine ⟨⟨rest.takeWhile isBlank, ?_, ?_⟩, ?_, ?_, ?_, ?_⟩
        · exact Text.blank_iff.2 fun c hc => List.mem_takeWhile_imp hc
        · rw [List.takeWhile_append_dropWhile, ← hrest, List.takeWhile_append_dropWhile]
        · simpa using hif.1
        · exact fun c hc => List.mem_takeWhile_imp hc
        · intro c hc
          have hhead := List.head?_dropWhile_not isBlank rest
          rw [Option.mem_def.1 hc] at hhead
          simpa using hhead
        · simpa using hif.2
    · cases h
  · rintro ⟨⟨gap, hgap, rfl⟩, hcaption, hletter, hbody, hflat⟩
    have hcolon : isAsciiLetter ':' = false := by decide
    have hdrop : (gap ++ body).dropWhile isBlank = body := by
      rw [List.dropWhile_append_of_pos (Text.blank_iff.1 hgap)]
      cases body with
      | nil => rfl
      | cons c body => exact List.dropWhile_cons_of_neg (by simp [hbody c rfl])
    rw [captioned?, Text.dropWhile_run hletter hcolon]
    simp only [Text.takeWhile_run hletter hcolon, hdrop]
    exact if_neg (by simp [hcaption, hflat])

/-- The body is a part of it. -/
theorem Captioned.body_subset {caption body : Text} (h : Captioned line caption body) :
    body ⊆ line := by
  obtain ⟨gap, -, rfl⟩ := h.written
  intro c hc
  simp [hc]

theorem not_mem_admonitionLines (h : '\n' ∉ line) :
    ∀ t ∈ admonitionLines line, '\n' ∉ t := by
  have hquoted {body : Text} (hbody : body ⊆ line) : '\n' ∉ ("> " : Text) ++ body :=
    List.not_mem_append (by decide) fun hmem => h (hbody hmem)
  unfold admonitionLines
  split
  · rename_i caption body hcaption
    have hcaptioned := captioned?_eq_some_iff.1 hcaption
    have hfree : '\n' ∉ caption := fun hmem => absurd (hcaptioned.letter _ hmem) (by decide)
    exact List.forall_mem_cons.2 ⟨not_mem_admonitionStyle hfree,
      List.forall_mem_singleton.2 (hquoted hcaptioned.body_subset)⟩
  · exact List.forall_mem_cons.2 ⟨not_mem_admonitionStyle List.not_mem_nil,
      List.forall_mem_singleton.2 (hquoted (List.Subset.refl line))⟩

theorem not_mem_expand (h : ∀ line ∈ lines, '\n' ∉ line) : ∀ line ∈ expand lines, '\n' ∉ line := by
  cases lines with
  | nil => exact h
  | cons first rest =>
    obtain ⟨-, hrest⟩ := List.forall_mem_cons.1 h
    rw [expand]
    split
    · refine List.forall_mem_append.2 ⟨List.forall_mem_cons.2 ⟨by decide, fun line hline => ?_⟩,
        List.forall_mem_singleton.2 (by decide)⟩
      exact hrest line (codeLines_subset rest hline)
    · split
      · refine not_mem_admonitionLines fun hmem => ?_
        have hline : '\n' ∈ rest.headD [] := Text.trim_subset _ hmem
        cases rest with
        | nil => cases hline
        | cons second rest => exact hrest second List.mem_cons_self hline
      · exact h

/-- **Entries that are read from lines hold no line feed.** -/
theorem flat_entries (headerFirst : Bool) (h : ∀ line ∈ lines, '\n' ∉ line) :
    ∀ e ∈ entries headerFirst lines, e.Flat := by
  intro e he
  obtain ⟨old, hold, rfl⟩ := List.mem_map.1 he
  have hstart : Progress.Flat ⟨if headerFirst then .headerAhead else .body, []⟩ :=
    List.forall_mem_nil _
  have hflat : old.Flat := hstart.foldl h old (List.mem_reverse.1 hold)
  exact ⟨hflat.name, not_mem_expand hflat.details⟩

end

/-! ## The rebuilt layout -/

section

variable {grid : Grid} {header : Option (List Text)} {found : List Entry} {span : List Text}

/-- **The cells of a header that a table of two columns shows** hold no line
feed. -/
def FlatHeader (header : Option (List Text)) : Prop :=
  ∀ cells ∈ header, ∀ cell ∈ cells.take 2, '\n' ∉ cell

theorem barred_entryLines (first second : Nat) {e : Entry} (he : e.Flat) :
    ∀ line ∈ entryLines first second e, Barred line := by
  have hhead : '\n' ∉ e.details.headD [] := by
    cases h : e.details with
    | nil => exact List.not_mem_nil
    | cons detail rest => exact he.details detail (h ▸ List.mem_cons_self)
  refine List.forall_mem_cons.2 ⟨barred_pairLine _ _ he.name hhead, fun line hline => ?_⟩
  obtain ⟨detail, hdetail, rfl⟩ := List.mem_map.1 hline
  exact barred_pairLine _ _ List.not_mem_nil (he.details detail (List.mem_of_mem_tail hdetail))

/-- The header is flat, or what takes its place is. -/
theorem flat_headerCells (hheader : FlatHeader header) (hfound : ∀ e ∈ found, e.Flat) :
    ('\n' ∉ (headerCells header found).1.1 ∧ '\n' ∉ (headerCells header found).1.2) ∧
      ∀ e ∈ (headerCells header found).2, e.Flat := by
  match header, found with
  | some cells, found =>
    have hcell (i : Nat) (hi : i < 2) : '\n' ∉ cells[i]?.getD [] := by
      cases h : cells[i]? with
      | none => exact List.not_mem_nil
      | some cell =>
        refine hheader cells rfl cell (List.mem_of_getElem? (i := i) ?_)
        rw [List.getElem?_take_of_lt hi, h]
    exact ⟨⟨hcell 0 (by decide), hcell 1 (by decide)⟩, hfound⟩
  | none, first :: rest =>
    obtain ⟨hfirst, hrest⟩ := List.forall_mem_cons.1 hfound
    refine ⟨⟨hfirst.name, fun hmem => ?_⟩, hrest⟩
    rcases Text.mem_intercalate hmem with hmem | ⟨detail, hdetail, hmem⟩
    · exact absurd (List.mem_singleton.1 hmem) (by decide)
    · exact hfirst.details detail hdetail hmem
  | none, [] => exact ⟨⟨List.not_mem_nil, List.not_mem_nil⟩, hfound⟩

/-- A rebuilt table comes from the span of its source. -/
theorem layout_eq_ok {rebuild : Bool} {files : Files} {role : Option Text} {t : Text}
    (h : layout rebuild files grid role = .ok t) :
    ∃ origin span, grid.source = some origin ∧ source files origin = .ok span ∧
      rebuilt grid span role = some t := by
  unfold layout at h
  split at h
  · cases h
  · split at h
    · cases h
    · split at h
      · cases h
      · rename_i origin horigin
        split at h
        · cases h
        · rename_i span hspan
          split at h
          · rename_i hrebuilt
            cases h
            exact ⟨origin, span, horigin, hspan, hrebuilt⟩
          · cases h

/-- A table of two columns is rebuilt where its source has an entry. -/
theorem layout_of_rebuilt {files : Files} {role : Option Text} {origin : Origin} {t : Text}
    (hcolumns : grid.columnCount = 2)
    (horigin : grid.source = some origin) (hspan : source files origin = .ok span)
    (h : rebuilt grid span role = some t) : layout true files grid role = .ok t := by
  rw [layout, if_neg (not_not_intro hcolumns), horigin]
  simp [hspan, h]

theorem not_mem_styleLines {role : Option Text} (multiline : Bool)
    (h : ∀ tags ∈ role, '\n' ∉ tags) : ∀ line ∈ styleLines role multiline, '\n' ∉ line := by
  match role, multiline with
  | some tags, true =>
    exact List.forall_mem_singleton.2
      (not_mem_styleComment (List.not_mem_append (h tags rfl) (by decide)))
  | some tags, false => exact List.forall_mem_singleton.2 (not_mem_styleComment (h tags rfl))
  | none, true => exact List.forall_mem_singleton.2 (by decide)
  | none, false => exact List.forall_mem_nil _

/-- The lines of a rebuilt table, without its style. -/
def rebuiltLines (left right : Text) (body : List Entry) : List Text :=
  let first := widest (left :: body.map (·.name)) + 2
  let second := widest (right :: body.flatMap (·.details)) + 2
  pairLine first second left right ::
    (("|" : Text) ++ List.replicate first '-' ++ ("|" : Text) ++
      List.replicate (second + 1) '-' ++ ("|" : Text)) ::
    [pairLine first second [] []].intercalate (body.map (entryLines first second))

/-- A source with an entry is rebuilt. -/
theorem rebuilt_of_headerCells {role : Option Text} {left right : Text} {body : List Entry}
    (hfound : entries grid.header.isSome span ≠ [])
    (hhead : headerCells grid.header (entries grid.header.isSome span) = ((left, right), body)) :
    rebuilt grid span role = some (Text.unlines
      (styleLines role (body.any fun e => 1 < e.details.length) ++
        rebuiltLines left right body)) := by
  rw [rebuilt, if_neg (by rwa [List.isEmpty_iff]), hhead]
  rfl

theorem barred_rebuiltLines {left right : Text} {body : List Entry} (hleft : '\n' ∉ left)
    (hright : '\n' ∉ right) (hbody : ∀ e ∈ body, e.Flat) :
    ∀ row ∈ rebuiltLines left right body, Barred row := by
  have hrule := barred_ruleLine [widest (left :: body.map (·.name)) + 2,
    widest (right :: body.flatMap (·.details)) + 2 + 1]
  rw [← rule_eq_ruleLine] at hrule
  refine List.forall_mem_cons.2 ⟨barred_pairLine _ _ hleft hright,
    List.forall_mem_cons.2 ⟨hrule, fun row hrow => ?_⟩⟩
  rcases Text.mem_intercalate hrow with hrow | ⟨block, hblock, hrow⟩
  · rw [List.mem_singleton.1 hrow]
    exact barred_pairLine _ _ List.not_mem_nil List.not_mem_nil
  · obtain ⟨e, he, rfl⟩ := List.mem_map.1 hblock
    exact barred_entryLines _ _ (hbody e he) row hrow

/-- **Every line of a rebuilt table is a row**, where the header is flat. -/
theorem rows_of_rebuilt {role : Option Text} {t : Text} (hspan : ∀ line ∈ span, '\n' ∉ line)
    (hheader : FlatHeader grid.header) (h : rebuilt grid span role = some t) :
    ∃ multiline rows, t = Text.unlines (styleLines role multiline ++ rows) ∧ rows ≠ [] ∧
      ∀ row ∈ rows, Barred row := by
  have hfound : entries grid.header.isSome span ≠ [] := fun hnil => by
    rw [rebuilt, hnil] at h
    cases h
  obtain ⟨⟨hleft, hright⟩, hbody⟩ :=
    flat_headerCells hheader (flat_entries grid.header.isSome hspan)
  rw [rebuilt_of_headerCells hfound rfl] at h
  exact ⟨_, _, (Option.some.inj h).symm, List.cons_ne_nil _ _,
    barred_rebuiltLines hleft hright hbody⟩

end

end Table

namespace Render

open Table

/-- A source without line feeds in its lines has none between its fences
either. The lines of a file never hold one. -/
theorem not_mem_source {files : Files} {origin : Origin} {span : List Text}
    (horigin : ∀ lines ∈ origin.lines, ∀ line ∈ lines, '\n' ∉ line)
    (h : source files origin = .ok span) : ∀ line ∈ span, '\n' ∉ line := by
  obtain ⟨lines, hgives, before, front, opening, closing, back, hlines, -⟩ := source_eq_ok_iff.1 h
  have hfree : ∀ line ∈ lines, '\n' ∉ line := by
    rcases hgives with hown | ⟨-, path, t, -, -, rfl⟩
    · exact horigin lines hown
    · exact fun line hline => Text.not_mem_of_mem_lines hline
  refine fun line hline => hfree line ?_
  rw [hlines]
  simp [hline]

/-- **Every line of a table is a row**, the style comment above it apart.
Cells may hold line feeds, and so may the header where the table is laid out
from its cells; where it is rebuilt from its source, the two cells of its
header have to be on one line. -/
theorem splitOn_table (s : Setting) (kind : Kind) {f : Fields} (hcolumns : f.cells.columnCount ≠ 0)
    (hrole : ∀ role ∈ f.role?, '\n' ∉ role)
    (hsource : ∀ origin ∈ f.cells.source, ∀ lines ∈ origin.lines, ∀ line ∈ lines, '\n' ∉ line)
    (hheader : s.options.rebuildTables = false ∨ Unusable s.files f.cells ∨
      FlatHeader f.cells.header) :
    ∃ t multiline rows, table s kind f = .ok t ∧
      t.splitOn '\n' = styleLines f.role? multiline ++ rows ∧ rows ≠ [] ∧
        ∀ row ∈ rows, row.head? = some '|' ∧ row.getLast? = some '|' := by
  -- rows that are joined under their style are the lines of the whole
  have hlines {multiline : Bool} {rows : List Text} (hne : rows ≠ [])
      (hrows : ∀ row ∈ rows, Barred row) :
      (Text.unlines (styleLines f.role? multiline ++ rows)).splitOn '\n' =
        styleLines f.role? multiline ++ rows := by
    refine List.splitOn_intercalate '\n' (List.forall_mem_append.2 ⟨?_, fun row hrow =>
      (hrows row hrow).oneLine⟩) fun hnil => hne (List.append_eq_nil_iff.1 hnil).2
    exact not_mem_styleLines multiline hrole
  rw [table, if_neg hcolumns]
  cases hlayout : tableLayout s f with
  | error reason =>
    have hrows := barred_cellLines f.cells
    exact ⟨_, false, cellLines f.cells, rfl, hlines (List.cons_ne_nil _ _) hrows,
      List.cons_ne_nil _ _, fun row hrow => ⟨(hrows row hrow).head, (hrows row hrow).last⟩⟩
  | ok t =>
    obtain ⟨origin, span, horigin, hspan, hrebuilt⟩ := layout_eq_ok hlayout
    have hrebuilds : ¬ (s.options.rebuildTables = false ∨ Unusable s.files f.cells) := fun h => by
      obtain ⟨reason, hreason⟩ : ∃ reason, tableLayout s f = .error reason :=
        layout_eq_error_iff.2 h
      rw [hreason] at hlayout
      cases hlayout
    have hflat : FlatHeader f.cells.header :=
      (or_assoc.2 hheader).resolve_left hrebuilds
    obtain ⟨multiline, rows, rfl, hne, hrows⟩ :=
      rows_of_rebuilt (not_mem_source (hsource origin horigin) hspan) hflat hrebuilt
    exact ⟨_, multiline, rows, rfl, hlines hne hrows, hne, fun row hrow =>
      ⟨(hrows row hrow).head, (hrows row hrow).last⟩⟩

/-- Terms with their notes. The second note takes two lines, and the cells of
the grid have them in one text. -/
def noteTable : Fields :=
  { Fields.empty with
    attributes := Attributes.empty.set "role" "terms"
    grid := some
      { header := some ["Term", "Note"]
        rows := [["a", "one"], ["b", "two\nthree"]]
        columns := none
        source := some ⟨none, none, some
          ["|===", "|Term |Note", "|a |one", "|b |two", "three", "|==="]⟩ } }

/-- The table of notes has a row for each of their lines. -/
theorem splitOn_table_noteTable :
    table ⟨.standard, .empty⟩ (.known .table) noteTable =
        .ok (Text.unlines ["<!-- style:terms; multiline -->", "| Term | Note   |",
          "|------|--------|", "| a    | one    |", "|      |        |", "| b    | two    |",
          "|      | three  |"]) ∧
      ∃ t multiline rows, table ⟨.standard, .empty⟩ (.known .table) noteTable = .ok t ∧
        t.splitOn '\n' = styleLines (some "terms".toList) multiline ++ rows ∧ rows ≠ [] ∧
          ∀ row ∈ rows, row.head? = some '|' ∧ row.getLast? = some '|' := by
  have hheader : FlatHeader noteTable.cells.header := by
    rintro cells ⟨⟩
    decide
  have hsource : ∀ origin ∈ noteTable.cells.source, ∀ lines ∈ origin.lines, ∀ line ∈ lines,
      '\n' ∉ line := by
    rintro origin ⟨⟩ lines ⟨⟩
    decide
  have hrole : ∀ role ∈ noteTable.role?, '\n' ∉ role := by
    rintro role ⟨⟩
    decide
  exact ⟨by decide +kernel, splitOn_table ⟨.standard, .empty⟩ (.known .table) (by decide) hrole
    hsource (.inr (.inr hheader))⟩

/-- A header with a line feed over one row, and the source of both. -/
def splitHeader : Fields :=
  { Fields.empty with
    grid := some
      { header := some ["a\nb", "c"]
        rows := [["x", "y"]]
        columns := some 2
        source := some ⟨none, none, some ["|===", "|a b |c", "|x |y", "|==="]⟩ } }

/-- **A header can break its row**: rebuilt from this source, the table has a
line that does not end in a bar. -/
theorem not_splitOn_table_splitHeader :
    splitHeader.cells.columnCount ≠ 0 ∧ splitHeader.role? = none ∧
      (∀ origin ∈ splitHeader.cells.source, ∀ lines ∈ origin.lines, ∀ line ∈ lines,
        '\n' ∉ line) ∧
      table ⟨.standard, .empty⟩ (.known .table) splitHeader =
        .ok "| a\nb | c  |\n|-----|----|\n| x   | y  |".toList ∧
      ¬ ∃ t multiline rows, table ⟨.standard, .empty⟩ (.known .table) splitHeader = .ok t ∧
        t.splitOn '\n' = styleLines splitHeader.role? multiline ++ rows ∧
          ∀ row ∈ rows, row.head? = some '|' ∧ row.getLast? = some '|' := by
  have htable : table ⟨.standard, .empty⟩ (.known .table) splitHeader =
      .ok "| a\nb | c  |\n|-----|----|\n| x   | y  |".toList := rfl
  refine ⟨by decide, rfl, ?_, htable, ?_⟩
  · rintro origin ⟨⟩ lines ⟨⟩
    decide
  · rintro ⟨t, multiline, rows, ht, hlines, hrows⟩
    obtain rfl := Except.ok.inj (htable.symm.trans ht)
    cases multiline with
    | true =>
      -- the first line is that of the header and no comment
      have hfirst : some "| a".toList = some "<!-- multiline -->".toList :=
        congrArg List.head? hlines
      exact absurd hfirst (by decide)
    | false =>
      have hrow : "| a".toList ∈ rows := by
        have hrows : styleLines splitHeader.role? false ++ rows = rows := rfl
        rw [← hrows, ← hlines]
        decide
      exact absurd (hrows _ hrow).2 (by decide)

end Render

end Treedown

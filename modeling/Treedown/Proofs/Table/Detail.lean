import Mathlib.Data.List.Forall2
import Treedown.Proofs.Table.Blocks
import Treedown.Proofs.Table.CodeCell
/-!
# Tables — the text of a cell

Every line between two bars is text of a second cell. `HoldsCell` says
which texts a cell holds, and `Keeps` what becomes of them where the first
one opens a block: of a source block the code is kept, of an admonition the
first of its lines, and of a cell without a block everything. A kept text
is shown in the second column, in its place among the others
(`table_keepsDetails`). What a block leaves out is lost. Where these are
only lines that delimit a block, the cell is shown whole; a line behind the
end of a block is no such line (`table_losesDetails_remarkCell`).
-/

namespace Treedown

namespace Table

variable {line rest : Text} {lines texts details kept lost : List Text}

/-! ## The texts of a cell -/

/-- **The text of a line**: the line without the white space at its end, and
without the style of a cell where it starts with one. -/
inductive HoldsText (line : Text) : Text → Prop
  | styled {c : Char} {t : Text} (hstyle : isStyle c = true) (hfree : '\n' ∉ t)
      (hline : line.trimEnd = c :: '|' :: t) : HoldsText line t
  | plain (h : ∀ c t, isStyle c = true → '\n' ∉ t → line.trimEnd ≠ c :: '|' :: t) :
      HoldsText line line.trimEnd

/-- **The texts of the second cell of an entry**: what stands behind the
second bar of its first line, if there is one, and the texts of the lines
behind it. Blank ones do not count. -/
inductive HoldsCell (rest : Text) (lines : List Text) : List Text → Prop
  | behind {texts : List Text} (hbar : '|' ∉ rest) (htexts : List.Forall₂ HoldsText lines texts) :
      HoldsCell rest lines (texts.filter (!Text.blank ·))
  | inline {name inner : Text} {texts : List Text} (hbar : '|' ∉ name)
      (hrest : rest = name ++ '|' :: inner) (htexts : List.Forall₂ HoldsText lines texts) :
      HoldsCell rest lines ((inner.trim :: texts).filter (!Text.blank ·))

theorem holdsText_iff {t : Text} : HoldsText line t ↔ dropCellStyle line.trimEnd = t := by
  constructor
  · rintro (⟨hstyle, hfree, hline⟩ | h)
    · rw [hline, dropCellStyle, if_pos (by simp [hstyle, hfree])]
    · unfold dropCellStyle
      split
      · rename_i c t hline
        refine if_neg fun hif => ?_
        obtain ⟨hstyle, hfree⟩ := Bool.and_eq_true_iff.1 hif
        exact h c t hstyle (by simpa using hfree) hline
      · rfl
  · rintro rfl
    unfold dropCellStyle
    split
    · rename_i c t hline
      split
      · rename_i hif
        obtain ⟨hstyle, hfree⟩ := Bool.and_eq_true_iff.1 hif
        exact .styled hstyle (by simpa using hfree) hline
      · rename_i hif
        refine .plain fun d u hstyle hfree heq => hif ?_
        obtain ⟨rfl, hu⟩ := List.cons.inj (hline.symm.trans heq)
        obtain ⟨-, rfl⟩ := List.cons.inj hu
        simp [hstyle, hfree]
    · rename_i hnot
      exact .plain fun c t _ _ => hnot c t

theorem forall₂_holdsText_iff : List.Forall₂ HoldsText lines texts ↔
    lines.map (fun line => dropCellStyle line.trimEnd) = texts := by
  have hrel : HoldsText = fun line t => dropCellStyle line.trimEnd = t := by
    funext line t
    exact propext holdsText_iff
  rw [hrel, ← List.forall₂_map_left_iff (f := fun line : Text => dropCellStyle line.trimEnd),
    List.forall₂_eq_eq_eq]

/-- A line without a second bar opens an entry without a text. -/
theorem openEntry_of_not_mem (h : '|' ∉ rest) : (openEntry rest.trimEnd).details = [] := by
  have hcut : Text.cutAt '|' rest.trimEnd = none := by
    rw [Option.eq_none_iff_forall_not_mem]
    rintro ⟨front, back⟩ hsome
    obtain ⟨-, hrest⟩ := Text.cutAt_eq_some_iff.1 hsome
    exact h (Text.trimEnd_subset rest (by rw [hrest]; simp))
  rw [openEntry, hcut]

/-- With a second bar, the text is what stands behind it. -/
theorem openEntry_of_second {name inner : Text} (h : '|' ∉ name) :
    (openEntry (name ++ '|' :: inner).trimEnd).details =
      [inner.trim].filter (!Text.blank ·) := by
  have hcut : Text.cutAt '|' (name ++ '|' :: inner).trimEnd = some (name, inner.trimEnd) :=
    Text.cutAt_eq_some_iff.2 ⟨h, Text.trimEnd_append_cons name inner (by decide)⟩
  rw [openEntry, hcut]
  dsimp only
  rw [Text.trim_trimEnd]
  cases hblank : inner.blank with
  | true => simp [Text.trim_eq_nil_iff.2 hblank, Text.blank]
  | false =>
    have hne : inner.trim ≠ [] := fun hnil => by
      rw [Text.trim_eq_nil_iff.1 hnil] at hblank
      cases hblank
    simp [hne, Text.blank_trim, hblank]

/-- **The texts of a cell are the details that are read.** -/
theorem HoldsCell.details_eq (h : HoldsCell rest lines details) :
    (openEntry rest.trimEnd).details ++
      (lines.map fun line => dropCellStyle line.trimEnd).filter (!Text.blank ·) = details := by
  cases h with
  | behind hbar htexts =>
    rw [openEntry_of_not_mem hbar, forall₂_holdsText_iff.1 htexts, List.nil_append]
  | inline hbar hrest htexts =>
    rw [hrest, openEntry_of_second hbar, forall₂_holdsText_iff.1 htexts, ← List.filter_append,
      List.singleton_append]

/-- Every cell holds its texts. -/
theorem exists_holdsCell (rest : Text) (lines : List Text) :
    ∃ details, HoldsCell rest lines details := by
  cases hcut : Text.cutAt '|' rest with
  | none =>
    refine ⟨_, .behind (fun hbar => ?_) (forall₂_holdsText_iff.2 rfl)⟩
    obtain ⟨name, inner, hrest, hname⟩ := List.eq_append_cons_of_mem hbar
    rw [Text.cutAt_eq_some_iff.2 ⟨hname, hrest⟩] at hcut
    cases hcut
  | some p =>
    obtain ⟨name, inner⟩ := p
    obtain ⟨hname, hrest⟩ := Text.cutAt_eq_some_iff.1 hcut
    exact ⟨_, .inline hname hrest (forall₂_holdsText_iff.2 rfl)⟩

/-- A cell has no other texts than those that are read. -/
theorem holdsCell_iff : HoldsCell rest lines details ↔
    (openEntry rest.trimEnd).details ++
      (lines.map fun line => dropCellStyle line.trimEnd).filter (!Text.blank ·) = details := by
  refine ⟨HoldsCell.details_eq, ?_⟩
  rintro rfl
  obtain ⟨details, h⟩ := exists_holdsCell rest lines
  rwa [h.details_eq]

/-! ## What a block keeps -/

/-- **A line that delimits a block**: it announces a source, or it is a fence
of code or the edge of an admonition. -/
def isDelimiter (t : Text) : Bool :=
  "[source".toList.isPrefixOf t.trim || isCodeFence t || t.trim = "====".toList

/-- **What becomes of the texts of a cell.** A block leaves out what does not
belong to it. -/
inductive Keeps : (details kept lost : List Text) → Prop
  /-- The cell opens no block. -/
  | plain {details : List Text}
      (h : ∀ first ∈ details.head?,
        ¬ "[source".toList <+: first.trim ∧ first.trim ≠ "====".toList) :
      Keeps details details []
  /-- Without a fence everything is code. -/
  | unfenced {label : Text} {code : List Text} (hlabel : "[source".toList <+: label.trim)
      (hcode : ∀ t ∈ code, isCodeFence t = false) : Keeps (label :: code) code []
  /-- The code reaches from the first fence to the second one, or to the end. -/
  | fenced {label opening : Text} {front code back : List Text}
      (hlabel : "[source".toList <+: label.trim)
      (hfront : ∀ t ∈ front, isCodeFence t = false) (hopening : isCodeFence opening = true)
      (hcode : ∀ t ∈ code, isCodeFence t = false)
      (hback : ∀ t ∈ back.head?, isCodeFence t = true) :
      Keeps (label :: (front ++ opening :: code ++ back)) code (front ++ back)
  /-- An admonition has one line. -/
  | admonition {edge : Text} {rest : List Text} (hedge : edge.trim = "====".toList) :
      Keeps (edge :: rest) (rest.take 1) rest.tail

/-- **How a text of a cell is shown**: as it is, or as a quotation where the
cell opens an admonition. Then a caption goes into the style, and the body
is what is quoted. -/
inductive ShownAs (details : List Text) (t : Text) : Text → Prop
  | same (h : ∀ first ∈ details.head?, first.trim ≠ "====".toList) : ShownAs details t t
  | body {edge caption body : Text} (hedge : edge ∈ details.head?)
      (h : edge.trim = "====".toList) (hcaption : Captioned t.trim caption body) :
      ShownAs details t (("> " : Text) ++ body)
  | quoted {edge : Text} (hedge : edge ∈ details.head?) (h : edge.trim = "====".toList)
      (hnone : ∀ caption body, ¬ Captioned t.trim caption body) :
      ShownAs details t (("> " : Text) ++ t.trim)

/-- **Every cell keeps some of its texts** and loses the others. -/
theorem exists_keeps (details : List Text) : ∃ kept lost, Keeps details kept lost := by
  cases details with
  | nil => exact ⟨[], [], .plain fun first hfirst => by cases hfirst⟩
  | cons first rest =>
    by_cases hlabel : "[source".toList <+: first.trim
    · cases hfence : rest.dropWhile (!isCodeFence ·) with
      | nil =>
        refine ⟨rest, [], .unfenced hlabel fun t ht => ?_⟩
        simpa using List.dropWhile_eq_nil_iff.1 hfence t ht
      | cons opening behind =>
        obtain ⟨front, rfl, hopening, hfront⟩ := Text.exists_of_dropWhile_eq_cons hfence
        cases hclose : behind.dropWhile (!isCodeFence ·) with
        | nil =>
          -- the block is not closed, and nothing stands behind its code
          have hcode : ∀ t ∈ behind, isCodeFence t = false := fun t ht => by
            simpa using List.dropWhile_eq_nil_iff.1 hclose t ht
          have hopen : front ++ opening :: behind = front ++ opening :: behind ++ [] := by simp
          rw [hopen]
          exact ⟨_, _, .fenced hlabel hfront hopening hcode fun t ht => by cases ht⟩
        | cons closing back =>
          obtain ⟨code, rfl, hclosing, hcode⟩ := Text.exists_of_dropWhile_eq_cons hclose
          have hback : ∀ t ∈ (closing :: back).head?, isCodeFence t = true := by
            rintro t ⟨⟩
            exact hclosing
          have hcut : front ++ opening :: (code ++ closing :: back) =
              front ++ opening :: code ++ closing :: back := by simp
          rw [hcut]
          exact ⟨_, _, .fenced hlabel hfront hopening hcode hback⟩
    · by_cases hedge : first.trim = "====".toList
      · exact ⟨_, _, .admonition hedge⟩
      · refine ⟨_, _, .plain ?_⟩
        rintro _ ⟨⟩
        exact ⟨hlabel, hedge⟩

/-- Where only delimiters are lost, what is kept are all other texts. -/
theorem Keeps.filter_eq (h : Keeps details kept lost) (hlost : ∀ t ∈ lost, isDelimiter t = true) :
    details.filter (!isDelimiter ·) = kept.filter (!isDelimiter ·) := by
  have hnone (texts : List Text) (h : ∀ t ∈ texts, isDelimiter t = true) :
      texts.filter (!isDelimiter ·) = [] :=
    List.filter_eq_nil_iff.2 fun t ht => by simp [h t ht]
  have hlabel {label : Text} (h : "[source".toList <+: label.trim) : isDelimiter label = true := by
    rw [isDelimiter, List.isPrefixOf_iff_prefix.2 h]
    rfl
  cases h with
  | plain h => rfl
  | unfenced h hcode => rw [List.filter_cons_of_neg (by simp [hlabel h])]
  | @fenced label opening front code back h hfront hopening hcode hback =>
    have hfence : isDelimiter opening = true := by simp [isDelimiter, hopening]
    rw [List.forall_mem_append] at hlost
    rw [List.filter_cons_of_neg (by simp [hlabel h]), List.filter_append, List.filter_append,
      hnone front hlost.1, hnone back hlost.2, List.filter_cons_of_neg (by simp [hfence]),
      List.nil_append, List.append_nil]
  | @admonition edge rest hedge =>
    have hdelimiter : isDelimiter edge = true := by simp [isDelimiter, hedge]
    rw [List.filter_cons_of_neg (by simp [hdelimiter])]
    cases rest with
    | nil => rfl
    | cons line rest =>
      rw [List.take_succ_cons, List.take_zero, ← List.singleton_append, List.filter_append,
        hnone rest hlost, List.append_nil]

/-! ## What is shown -/

/-- A text that announces a source is no edge. -/
theorem ne_edge_of_source {t : Text} (h : "[source".toList <+: t) : t ≠ "====".toList := by
  rintro rfl
  exact absurd (List.isPrefixOf_iff_prefix.2 h) (by decide)

/-- A block of code is its code between two fences. -/
theorem expand_of_label {label : Text} (h : "[source".toList <+: label.trim) (rest : List Text) :
    expand (label :: rest) = ("```" : Text) :: codeLines rest ++ [("```" : Text)] :=
  if_pos (List.isPrefixOf_iff_prefix.2 h)

theorem codeLines_of_unfenced (h : ∀ t ∈ lines, isCodeFence t = false) :
    codeLines lines = lines := by
  rw [codeLines, List.dropWhile_eq_nil_iff.2 fun t ht => by simp [h t ht]]

/-- The code is shown as it is. -/
theorem sublistForall₂_expand_of_label {label : Text} {code : List Text}
    (hlabel : "[source".toList <+: label.trim) (hcode : codeLines lines = code) :
    List.SublistForall₂ (ShownAs (label :: lines)) code (expand (label :: lines)) := by
  have hsame : ∀ first ∈ (label :: lines).head?, first.trim ≠ "====".toList := by
    rintro _ ⟨⟩
    exact ne_edge_of_source hlabel
  refine List.sublistForall₂_iff.2 ⟨code, List.forall₂_same.2 fun t _ => .same hsame, ?_⟩
  rw [expand_of_label hlabel, hcode, List.cons_append]
  exact (List.sublist_append_left code _).cons _

/-- **What is kept is shown**, each text in its place. -/
theorem Keeps.shown (h : Keeps details kept lost) :
    List.SublistForall₂ (ShownAs details) kept (expand details) := by
  cases h with
  | plain h =>
    have hexpand : expand details = details := by
      cases details with
      | nil => rfl
      | cons first rest =>
        obtain ⟨hlabel, hedge⟩ := h first rfl
        rw [expand, if_neg (by rwa [List.isPrefixOf_iff_prefix]), if_neg hedge]
    rw [hexpand]
    exact List.sublistForall₂_iff.2 ⟨details, List.forall₂_same.2 fun t _ =>
      .same fun first hfirst => (h first hfirst).2, List.Sublist.refl _⟩
  | unfenced hlabel hcode =>
    exact sublistForall₂_expand_of_label hlabel (codeLines_of_unfenced hcode)
  | fenced hlabel hfront hopening hcode hback =>
    exact sublistForall₂_expand_of_label hlabel (codeLines_of_opening hfront hopening hcode hback)
  | @admonition edge rest hedge =>
    have hexpand : expand (edge :: rest) = admonitionLines (rest.headD []).trim := by
      rw [expand, if_neg, if_pos hedge]
      exact fun h => ne_edge_of_source (List.isPrefixOf_iff_prefix.1 h) hedge
    rw [hexpand]
    cases rest with
    | nil => exact .nil
    | cons line rest =>
      rw [List.take_succ_cons, List.take_zero, List.headD_cons, admonitionLines]
      cases hcaption : captioned? line.trim with
      | none =>
        refine .cons_right (.cons (.quoted rfl hedge fun caption body hbody => ?_) .nil)
        rw [captioned?_eq_some_iff.2 hbody] at hcaption
        cases hcaption
      | some p =>
        exact .cons_right (.cons (.body rfl hedge (captioned?_eq_some_iff.1 hcaption)) .nil)

/-- Leaving out texts leaves the order of the others. -/
theorem sublistForall₂_filter {α β : Type} {R : α → β → Prop} {xs : List α} {ys : List β}
    (p : α → Bool) (h : List.SublistForall₂ R xs ys) : List.SublistForall₂ R (xs.filter p) ys := by
  induction h with
  | nil => exact .nil
  | @cons x y xs ys hxy _ ih =>
    by_cases hp : p x = true
    · rw [List.filter_cons_of_pos hp]
      exact .cons hxy ih
    · rw [List.filter_cons_of_neg hp]
      exact .cons_right ih
  | cons_right _ ih => exact .cons_right ih

/-- **A cell is read as an entry** with its texts, and the block that they
open is expanded. -/
theorem entries_of_holdsCell (hlines : ∀ line ∈ lines, startsWithBar line = false)
    (h : HoldsCell rest lines details) :
    entries false (('|' :: rest) :: lines) =
      [⟨(openEntry rest.trimEnd).name, expand details⟩] := by
  rw [entries_false, List.foldl_cons, readLine_of_bar Stage.noConfusion,
    foldl_readLine_of_open hlines, h.details_eq]
  rfl

end Table

namespace Render

open Table

/-- **What a cell keeps is shown in its row.** Take a table with a header
that is rebuilt from its source, and in the source any entry behind the
header, with the lines up to the next bar. Its cell holds some texts
(`exists_holdsCell`) and keeps some of them (`exists_keeps`). Then the
table is laid out in two columns, and the block of the entry, which stands
behind those of the entries before it, shows in its second column what is
kept, in this order. Where only delimiters are lost, it shows all texts
that are no delimiters. -/
theorem table_keepsDetails (s : Setting) (kind : Kind) {f : Fields} {origin : Origin}
    {cells own before lines after details kept lost : List Text} {rest t : Text}
    (hlayout : tableLayout s f = .ok t) (hheader : f.cells.header = some cells)
    (horigin : f.cells.source = some origin) (hown : Gives s.files origin own)
    (hfenced : Fenced own (startLine origin) (before ++ (('|' :: rest) :: lines ++ after)))
    (hbefore : 0 < before.countP startsWithBar)
    (hlines : ∀ line ∈ lines, startsWithBar line = false)
    (hafter : ∀ line ∈ after.head?, startsWithBar line = true)
    (hcell : HoldsCell rest lines details) (hkeeps : Keeps details kept lost) :
    table s kind f = .ok t ∧
      ∃ multiline shown first second earlier e later,
        t = Text.unlines (styleLines f.role? multiline ++ shown) ∧
        earlier.length + 1 = before.countP startsWithBar ∧
        ShowsEntries (cells[0]?.getD []) (cells[1]?.getD []) (earlier ++ e :: later) first second
          shown ∧
        (∃ front block back, shown = front ++ block ++ back ∧
          front.length = 2 + (earlier.map fun e => max 1 e.details.length + 1).sum ∧
          ShowsEntry [first, second + 1] e block) ∧
        List.SublistForall₂ (ShownAs details) kept e.details ∧
        ((∀ t ∈ lost, isDelimiter t = true) →
          List.SublistForall₂ (ShownAs details) (details.filter (!isDelimiter ·)) e.details) := by
  -- the table comes from a span of its source, and a source has but one
  obtain ⟨origin', span, horigin', hspan, hrebuilt⟩ := layout_eq_ok hlayout
  obtain rfl := Option.some.inj (horigin.symm.trans horigin')
  obtain rfl := Except.ok.inj ((source_eq_ok_iff.2 ⟨own, hown, hfenced⟩).symm.trans hspan)
  have hcolumns : f.cells.columnCount ≠ 0 := fun hzero => by
    rw [tableLayout, layout, if_pos (by rw [hzero]; decide)] at hlayout
    cases hlayout
  have hbar : ∀ line ∈ (('|' :: rest) :: lines).head?, startsWithBar line = true := by
    rintro line ⟨⟩
    rfl
  obtain ⟨earlier, later, hlength, hentries⟩ :=
    exists_entries_of_singleton hbefore (entries_of_holdsCell hlines hcell) hbar hafter
  have hfound : entries f.cells.header.isSome (before ++ (('|' :: rest) :: lines ++ after)) =
      earlier ++ ⟨(openEntry rest.trimEnd).name, expand details⟩ :: later := by
    rw [hheader]
    exact hentries
  have hhead : headerCells f.cells.header
      (entries f.cells.header.isSome (before ++ (('|' :: rest) :: lines ++ after))) =
        ((cells[0]?.getD [], cells[1]?.getD []),
          earlier ++ ⟨(openEntry rest.trimEnd).name, expand details⟩ :: later) := by
    rw [hfound, hheader]
    rfl
  rw [rebuilt_of_headerCells (by rw [hfound]; simp) hhead] at hrebuilt
  obtain ⟨first, second, hshows⟩ := showsEntries_rebuiltLines (cells[0]?.getD [])
    (cells[1]?.getD []) (earlier ++ ⟨(openEntry rest.trimEnd).name, expand details⟩ :: later)
  refine ⟨by rw [table, if_neg hcolumns, hlayout], _, _, first, second, earlier, _, later,
    (Option.some.inj hrebuilt).symm, hlength, hshows, hshows.block, hkeeps.shown, fun hlost => ?_⟩
  rw [hkeeps.filter_eq hlost]
  exact sublistForall₂_filter _ hkeeps.shown

/-- The source of a table of options. -/
def optionSource (lines : List Text) : List Text :=
  "|===".toList :: "|Option |Use".toList :: (lines ++ ["|===".toList])

/-- A table of options from the lines of its source. -/
def optionTable (lines : List Text) : Fields :=
  { Fields.empty with
    grid := some
      { header := some ["Option", "Use"]
        rows := []
        columns := none
        source := some ⟨none, none, some (optionSource lines)⟩ } }

/-- The second cell of an option, which is a warning. -/
def warningCell : List Text :=
  ["====", "  WARNING: Fails early. ", "===="]

/-- The option with the warning, between two others. -/
def warningLines : List Text :=
  ["|--quiet |Silence.".toList, []] ++ ("|--strict a|".toList :: warningCell ++ ["|--all".toList])

/-- The table of these options. -/
def warningText : Text :=
  Text.unlines ["<!-- multiline -->",
    "| Option   | Use                               |",
    "|----------|-----------------------------------|",
    "| --quiet  | Silence.                          |",
    "|          |                                   |",
    "| --strict | <!-- style:AdmonitionWarning -->  |",
    "|          | > Fails early.                    |",
    "|          |                                   |",
    "| --all    |                                   |"]

/-- The body of the warning is quoted, and the edges are all that is left
out. -/
theorem table_keepsDetails_warningCell :
    tableLayout ⟨.standard, .empty⟩ (optionTable warningLines) = .ok warningText ∧
      HoldsCell "--strict a|" warningCell ["====", "  WARNING: Fails early.", "===="] ∧
      ShownAs ["====", "  WARNING: Fails early.", "===="] "  WARNING: Fails early."
        "> Fails early." ∧
      ∃ shown first second earlier e later, earlier.length = 1 ∧
        ShowsEntries "Option" "Use" (earlier ++ e :: later) first second shown ∧
        List.SublistForall₂ (ShownAs ["====", "  WARNING: Fails early.", "===="])
          ["  WARNING: Fails early."] e.details := by
  have hlayout : tableLayout ⟨.standard, .empty⟩ (optionTable warningLines) = .ok warningText := by
    decide +kernel
  have hfenced : Fenced (optionSource warningLines) 1
      (["|Option |Use".toList, "|--quiet |Silence.".toList, []] ++
        (("|--strict a|".toList :: warningCell) ++ ["|--all".toList])) :=
    span_eq_some_iff.1 (by decide +kernel)
  have hcell : HoldsCell "--strict a|" warningCell ["====", "  WARNING: Fails early.", "===="] :=
    holdsCell_iff.2 (by decide +kernel)
  have hafter : ∀ line ∈ ["|--all".toList].head?, startsWithBar line = true := by
    rintro line ⟨⟩
    rfl
  have hcaption : Captioned (Text.trim "  WARNING: Fails early.".toList) "WARNING" "Fails early." :=
    captioned?_eq_some_iff.1 (by decide)
  obtain ⟨-, -, shown, first, second, earlier, e, later, -, hlength, hshows, -, -, hall⟩ :=
    table_keepsDetails ⟨.standard, .empty⟩ (.known .table) hlayout rfl rfl (.inl rfl) hfenced
      (by decide) (by decide) hafter hcell (.admonition (by decide))
  exact ⟨hlayout, hcell, .body rfl (by decide) hcaption, shown, first, second, earlier, e, later,
    Nat.succ.inj (hlength.trans (by decide)), hshows, hall (by decide)⟩

/-- The second cell of an option: an example, and a remark behind the
example. -/
def remarkCell : List Text :=
  ["[source,bash]", "----", "tree -v", "----", "Prints each step."]

/-- The table of this option. -/
def remarkTable : Fields :=
  optionTable ("|--verbose a|".toList :: remarkCell)

/-- How it is laid out. The remark is missing. -/
def remarkText : Text :=
  Text.unlines ["<!-- multiline -->",
    "| Option    | Use      |",
    "|-----------|----------|",
    "| --verbose | ```      |",
    "|           | tree -v  |",
    "|           | ```      |"]

/-- **A line behind the end of a block is lost**: the remark is a text of the
cell and no delimiter, and no line of the table holds it. -/
theorem table_losesDetails_remarkCell :
    HoldsCell "--verbose a|" remarkCell remarkCell ∧
      "Prints each step.".toList ∈ remarkCell ∧ isDelimiter "Prints each step." = false ∧
      tableLayout ⟨.standard, .empty⟩ remarkTable = .ok remarkText ∧
      table ⟨.standard, .empty⟩ (.known .table) remarkTable = .ok remarkText ∧
      ∀ line ∈ remarkText.splitOn '\n', ¬ "Prints each step.".toList <:+: line :=
  ⟨holdsCell_iff.2 (by decide +kernel), by decide, by decide, by decide +kernel, by decide +kernel,
    by decide +kernel⟩

end Render

end Treedown

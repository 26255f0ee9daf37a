import Mathlib.Data.List.Forall2
import Treedown.Markup.Loose
import Treedown.Proofs.Text.Cut
import Treedown.Proofs.Text.Lines
import Treedown.Proofs.Text.Trim
/-!
# Markup — loose text keeps every line

The groups of loose text are the runs of lines between blank ones
(`groups_eq_runs`), so a blank line next to another one, or at an end, makes no
difference (`runs_append_blanks`). Every group becomes one paragraph, and its
characters but the blanks are kept in order. Only the marks of a heading are
changed (`exists_turned`). `readAsProse_looseText` puts this together.
-/

namespace Treedown

namespace Markup

variable {line title : Text} {level : Nat} {lines before after : List Text}

/-! ## Groups -/

/-- **The runs of lines that are not blank**, each line trimmed. -/
def runs (lines : List Text) : List (List Text) :=
  ((lines.splitOnP Text.blank).filter fun run => !run.isEmpty).map (·.map Text.trim)

theorem runs_nil : runs [] = [] := rfl

/-- A blank line separates. -/
theorem runs_append_cons (before after : List Text) (h : Text.blank line = true) :
    runs (before ++ line :: after) = runs before ++ runs after := by
  rw [runs, List.splitOnP_append_cons _ _ h, List.filter_append, List.map_append, ← runs, ← runs]

theorem runs_cons_of_blank (rest : List Text) (h : Text.blank line = true) :
    runs (line :: rest) = runs rest :=
  runs_append_cons [] rest h

theorem runs_singleton (h : ¬ Text.blank line = true) : runs [line] = [[line.trim]] := by
  rw [runs, List.splitOnP_eq_singleton]
  · rfl
  · simpa using h

/-- A line joins the run that the next line starts. -/
theorem runs_cons_cons {next : Text} (rest : List Text) (h : ¬ Text.blank line = true)
    (hnext : ¬ Text.blank next = true) :
    ∃ first more, runs (next :: rest) = first :: more ∧
      runs (line :: next :: rest) = (line.trim :: first) :: more := by
  obtain ⟨run, others, hsplit⟩ :=
    List.exists_cons_of_ne_nil (List.splitOnP_ne_nil Text.blank rest)
  refine ⟨(next :: run).map Text.trim,
    (others.filter fun run => !run.isEmpty).map (·.map Text.trim), ?_, ?_⟩
  · rw [runs, List.splitOnP_cons_eq_if_modifyHead, if_neg hnext, hsplit]
    rfl
  · rw [runs, List.splitOnP_cons_eq_if_modifyHead, if_neg h, List.splitOnP_cons_eq_if_modifyHead,
      if_neg hnext, hsplit]
    rfl

/-- **The groups are the runs between blank lines.** -/
theorem groups_eq_runs (lines : List Text) : groups lines = runs lines := by
  induction lines with
  | nil => rfl
  | cons line rest ih =>
    by_cases h : Text.blank line = true
    · rw [runs_cons_of_blank rest h, ← ih, groups.eq_def]
      exact if_pos h
    · cases rest with
      | nil => rw [groups, if_neg h, runs_singleton h]
      | cons next rest =>
        by_cases hnext : Text.blank next = true
        · -- the next line ends the run
          have hruns : runs (line :: next :: rest) = [line.trim] :: runs (next :: rest) := by
            rw [runs_cons_of_blank rest hnext, ← List.singleton_append,
              runs_append_cons [line] rest hnext, runs_singleton h]
            rfl
          rw [hruns, ← ih]
          cases hgroups : groups (next :: rest) with
          | nil => rw [groups.eq_4 _ (next :: rest) (by simp) hgroups, if_neg h]
          | cons first more => rw [groups.eq_3 _ _ _ _ _ hgroups, if_neg h, if_pos hnext]
        · obtain ⟨first, more, hrest, hruns⟩ := runs_cons_cons rest h hnext
          rw [hruns, groups.eq_3 _ _ _ _ _ (ih.trans hrest), if_neg h, if_neg hnext]

theorem runs_blanks_append {blanks : List Text} (h : ∀ line ∈ blanks, Text.blank line = true)
    (after : List Text) : runs (blanks ++ after) = runs after := by
  induction blanks with
  | nil => rfl
  | cons line blanks ih =>
    obtain ⟨hline, hblanks⟩ := List.forall_mem_cons.1 h
    rw [List.cons_append, runs_cons_of_blank _ hline, ih hblanks]

/-- A place at an end of some lines, or next to a blank one. -/
def AtBlank (before after : List Text) : Prop :=
  before = [] ∨ after = [] ∨ (∃ line ∈ before.getLast?, Text.blank line = true) ∨
    ∃ line ∈ after.head?, Text.blank line = true

/-- **Blank lines at an end or next to another blank line** make no
difference. -/
theorem runs_append_blanks {blanks : List Text} (hblanks : ∀ line ∈ blanks, Text.blank line = true)
    (h : AtBlank before after) :
    runs (before ++ (blanks ++ after)) = runs (before ++ after) := by
  cases blanks with
  | nil => rfl
  | cons line blanks =>
    obtain ⟨hline, hrest⟩ := List.forall_mem_cons.1 hblanks
    rw [List.cons_append, runs_append_cons _ _ hline, runs_blanks_append hrest]
    rcases h with rfl | rfl | ⟨last, hlast, hblank⟩ | ⟨first, hfirst, hblank⟩
    · rfl
    · rw [runs_nil, List.append_nil, List.append_nil]
    · obtain ⟨front, rfl⟩ := List.getLast?_eq_some_iff.1 hlast
      rw [List.append_assoc front [last] after, runs_append_cons front [] hblank,
        List.singleton_append, runs_append_cons front after hblank, runs_nil, List.append_nil]
    · obtain ⟨back, rfl⟩ := List.head?_eq_some_iff.1 hfirst
      rw [runs_cons_of_blank back hblank, runs_append_cons before back hblank]

theorem flatten_splitOnP {α : Type} (p : α → Bool) (xs : List α) :
    (xs.splitOnP p).flatten = xs.filter fun x => !p x := by
  induction xs with
  | nil => rfl
  | cons x rest ih =>
    obtain ⟨run, others, hsplit⟩ := List.exists_cons_of_ne_nil (List.splitOnP_ne_nil p rest)
    rw [hsplit, List.flatten_cons] at ih
    rw [List.splitOnP_cons_eq_if_modifyHead, hsplit]
    by_cases h : p x = true
    · rw [if_pos h, List.filter_cons_of_neg (by simpa using h), ← ih]
      rfl
    · rw [if_neg h, List.filter_cons_of_pos (by simpa using h), ← ih]
      rfl

/-- **Every line that is not blank stands in a run**, in order. -/
theorem flatten_runs (lines : List Text) :
    (runs lines).flatten = (lines.filter fun line => !line.blank).map Text.trim := by
  rw [runs, ← List.map_flatten, List.flatten_filter_not_isEmpty, flatten_splitOnP]

theorem ne_nil_of_mem_runs {run : List Text} (h : run ∈ runs lines) : run ≠ [] := by
  obtain ⟨untrimmed, hmem, rfl⟩ := List.mem_map.1 h
  simpa using (List.mem_filter.1 hmem).2

/-- A line of a run is a trimmed line that is not blank. -/
theorem exists_of_mem_run {run : List Text} (hrun : run ∈ runs lines) (h : line ∈ run) :
    ∃ full ∈ lines, line = full.trim ∧ ¬ line.blank = true := by
  have hflat : line ∈ (runs lines).flatten := List.mem_flatten.2 ⟨run, hrun, h⟩
  rw [flatten_runs] at hflat
  obtain ⟨full, hfull, rfl⟩ := List.mem_map.1 hflat
  obtain ⟨hmem, hblank⟩ := List.mem_filter.1 hfull
  refine ⟨full, hmem, rfl, ?_⟩
  rw [Text.blank_trim]
  simpa using hblank

theorem not_mem_of_mem_run {run : List Text} (hlines : ∀ line ∈ lines, '\n' ∉ line)
    (hrun : run ∈ runs lines) (h : line ∈ run) : '\n' ∉ line := by
  obtain ⟨full, hfull, rfl, -⟩ := exists_of_mem_run hrun h
  exact fun hmem => hlines full hfull (Text.trim_subset full hmem)

/-! ## Headings -/

/-- **A heading of the source language**: equals signs, white space and a
title. -/
def IsHeading (line : Text) (level : Nat) (title : Text) : Prop :=
  ∃ gap, line = List.replicate level '=' ++ (gap ++ title) ∧ 0 < level ∧ gap ≠ [] ∧
    gap.blank = true ∧ ∃ c rest, title = c :: rest ∧ isBlank c = false

theorem isHeading_of_heading? (h : heading? line = some (level, title)) :
    IsHeading line level title := by
  simp only [heading?, Bool.or_eq_true, List.isEmpty_iff, decide_eq_true_eq,
    Option.ite_none_left_eq_some, not_or, Option.some.injEq, Prod.mk.injEq] at h
  obtain ⟨⟨⟨⟨hmarks, hgap⟩, htitle⟩, -⟩, rfl, rfl⟩ := h
  refine ⟨(line.dropWhile (· = '=')).takeWhile isBlank, ?_, List.length_pos_iff.2 hmarks,
    fun hnil => hgap ?_, Text.blank_iff.2 fun c hc => List.mem_takeWhile_imp hc, ?_⟩
  · rw [← Text.takeWhile_eq_replicate, List.takeWhile_append_dropWhile,
      List.takeWhile_append_dropWhile]
  · have hbehind := @List.takeWhile_append_dropWhile _ isBlank (line.dropWhile (· = '='))
    rw [hnil, List.nil_append] at hbehind
    rw [hbehind]
  · obtain ⟨c, rest, heq⟩ := List.exists_cons_of_ne_nil htitle
    refine ⟨c, rest, heq, ?_⟩
    have hhead := List.head?_dropWhile_not isBlank (line.dropWhile (· = '='))
    rw [heq] at hhead
    simpa using hhead

theorem heading?_of_isHeading (hline : '\n' ∉ line) (h : IsHeading line level title) :
    heading? line = some (level, title) := by
  obtain ⟨gap, rfl, hlevel, hgap, hblank, c, rest, rfl, hc⟩ := h
  obtain ⟨g, gs, rfl⟩ := List.exists_cons_of_ne_nil hgap
  have hnewline : '\n' ∉ c :: rest := fun hmem =>
    hline (List.mem_append_right _ (List.mem_append_right _ hmem))
  -- white space stands behind the equals signs, so they end there
  have hg : ∀ d ∈ (g :: (gs ++ c :: rest)).head?, d ≠ '=' := by
    rintro d ⟨⟩ rfl
    exact absurd (Text.blank_iff.1 hblank '=' List.mem_cons_self) (by decide)
  obtain ⟨hmarks, hbehind⟩ := Text.cut_replicate_append level hg
  have htitle : (g :: (gs ++ c :: rest)).dropWhile isBlank = c :: rest :=
    Text.dropWhile_run (Text.blank_iff.1 hblank) hc
  rw [heading?, List.cons_append]
  simp only [hmarks, hbehind, htitle]
  rw [if_neg]
  · rw [List.length_replicate]
  · simp only [Bool.or_eq_true, List.isEmpty_iff, decide_eq_true_eq, List.contains_iff_mem,
      List.replicate_eq_nil_iff, List.length_cons, List.length_append, hnewline, or_false,
      reduceCtorEq]
    omega

/-! ## Paragraphs -/

/-- **What a group becomes.** -/
inductive Paragraph : List Text → Text → Prop
  | heading {line title : Text} {level : Nat} :
      IsHeading line level title → Paragraph [line] (List.replicate level '#' ++ ' ' :: title)
  | line {line : Text} : (∀ level title, ¬ IsHeading line level title) → Paragraph [line] line
  | joined {lines : List Text} : 2 ≤ lines.length → Paragraph lines ([' '].intercalate lines)

theorem paragraph_groupText {group : List Text} (hne : group ≠ [])
    (h : ∀ line ∈ group, '\n' ∉ line) : Paragraph group (groupText group) := by
  cases group with
  | nil => exact absurd rfl hne
  | cons line rest =>
    cases rest with
    | nil =>
      have hline := h line List.mem_cons_self
      rw [groupText]
      cases hheading : heading? line with
      | some found => exact .heading (isHeading_of_heading? hheading)
      | none =>
        refine .line fun level title hother => ?_
        rw [heading?_of_isHeading hline hother] at hheading
        cases hheading
    | cons next rest => exact .joined (by simp)

/-- A paragraph is not blank, and on one line. -/
theorem Paragraph.not_blank {group : List Text} {t : Text} (hp : Paragraph group t)
    (h : ∀ line ∈ group, ¬ line.blank = true) : ¬ t.blank = true := by
  cases hp with
  | @heading line title level hheading =>
    obtain ⟨-, -, -, -, -, c, rest, rfl, hc⟩ := hheading
    intro hblank
    have hc' := Text.blank_iff.1 hblank c
      (List.mem_append_right _ (List.mem_cons_of_mem _ List.mem_cons_self))
    rw [hc] at hc'
    cases hc'
  | line => exact h t List.mem_cons_self
  | joined hlength =>
    obtain ⟨first, second, rest, rfl⟩ : ∃ first second rest, group = first :: second :: rest := by
      match group, hlength with
      | first :: second :: rest, _ => exact ⟨first, second, rest, rfl⟩
    rw [List.intercalate_cons_cons, List.append_assoc]
    intro hblank
    exact h first List.mem_cons_self (Text.blank_iff.2 fun c hc =>
      Text.blank_iff.1 hblank c (List.mem_append_left _ hc))

theorem Paragraph.not_mem {group : List Text} {t : Text} (hp : Paragraph group t)
    (h : ∀ line ∈ group, '\n' ∉ line) : '\n' ∉ t := by
  cases hp with
  | @heading line title level hheading =>
    obtain ⟨gap, rfl, -⟩ := hheading
    have hline := h _ List.mem_cons_self
    simp only [List.mem_append, not_or] at hline
    simp [hline.2.2]
  | line => exact h t List.mem_cons_self
  | joined hlength => exact Text.not_mem_intercalate (by decide) h

section

variable (hlines : ∀ line ∈ lines, '\n' ∉ line)

include hlines

theorem paragraph_of_mem_runs {run : List Text} (h : run ∈ runs lines) :
    Paragraph run (groupText run) :=
  paragraph_groupText (ne_nil_of_mem_runs h) fun _ => not_mem_of_mem_run hlines h

theorem not_blank_groupText {run : List Text} (h : run ∈ runs lines) :
    ¬ (groupText run).blank = true := by
  refine (paragraph_of_mem_runs hlines h).not_blank fun line hline => ?_
  obtain ⟨-, -, -, hblank⟩ := exists_of_mem_run h hline
  exact hblank

theorem forall₂_groupText : List.Forall₂ Paragraph (runs lines) ((runs lines).map groupText) :=
  List.forall₂_map_right_iff.2
    (List.forall₂_same.2 fun _ hrun => paragraph_of_mem_runs hlines hrun)

/-- **Loose text is one paragraph for every run of lines.** -/
theorem looseText_eq :
    looseText lines = ("\n\n" : Text).intercalate ((runs lines).map groupText) := by
  rw [looseText, joinBlocks, groups_eq_runs, List.filter_eq_self.2]
  intro t ht
  obtain ⟨run, hrun, rfl⟩ := List.mem_map.1 ht
  have hne : groupText run ≠ [] := fun hnil => not_blank_groupText hlines hrun (hnil ▸ rfl)
  simpa using hne

end

/-! ## Blocks of a text -/

/-- The lines of a text, cut at those that are blank. -/
def blocksOf (t : Text) : List (List Text) :=
  (t.splitOn '\n').splitOnP Text.blank

/-- **Joined blocks are found again**, if each of them is one line. -/
theorem blocksOf_intercalate {ts : List Text} (hts : ts ≠ [])
    (hblank : ∀ t ∈ ts, ¬ t.blank = true) (h : ∀ t ∈ ts, '\n' ∉ t) :
    blocksOf (("\n\n" : Text).intercalate ts) = ts.map ([·]) := by
  have hsingle : ∀ t ∈ ts, [t].splitOnP Text.blank = [[t]] := fun t ht =>
    List.splitOnP_eq_singleton (by simpa using hblank t ht)
  induction ts with
  | nil => exact absurd rfl hts
  | cons t rest ih =>
    obtain ⟨-, hrest⟩ := List.forall_mem_cons.1 hblank
    obtain ⟨ht, hrest'⟩ := List.forall_mem_cons.1 h
    obtain ⟨hown, hsingles⟩ := List.forall_mem_cons.1 hsingle
    cases rest with
    | nil =>
      rw [List.intercalate_singleton, blocksOf, List.splitOn_eq_singleton ht, hown]
      rfl
    | cons u rest =>
      have hjoin : ("\n\n" : Text).intercalate (t :: u :: rest) =
          t ++ '\n' :: ([] ++ '\n' :: ("\n\n" : Text).intercalate (u :: rest)) := by
        rw [List.intercalate_cons_cons, List.append_assoc]
        rfl
      rw [hjoin, blocksOf, List.splitOn_append_cons_self_of_not_mem ht,
        List.splitOn_append_cons_self_of_not_mem List.not_mem_nil, ← List.singleton_append,
        List.splitOnP_append_cons _ _ rfl, hown, ← blocksOf,
        ih (List.cons_ne_nil u rest) hrest hrest' hsingles]
      rfl

/-! ## Characters that are no blanks -/

/-- The characters of a text that are no white space. -/
def inked (t : Text) : Text :=
  t.filter fun c => !isBlank c

theorem inked_append (a b : Text) : inked (a ++ b) = inked a ++ inked b :=
  List.filter_append ..

theorem inked_flatten (ts : List Text) : inked ts.flatten = ts.flatMap inked := by
  rw [inked, List.filter_flatten, List.flatMap]
  rfl

theorem inked_of_blank {t : Text} (h : t.blank = true) : inked t = [] :=
  List.filter_eq_nil_iff.2 fun c hc => by simpa using Text.blank_iff.1 h c hc

theorem inked_trim (t : Text) : inked t.trim = inked t := by
  obtain ⟨front, back, hfront, hback, ht⟩ := Text.exists_eq_append_trim_append t
  conv_rhs => rw [ht, inked_append, inked_append, inked_of_blank hfront, inked_of_blank hback]
  rw [List.nil_append, List.append_nil]

theorem inked_intercalate {sep : Text} (h : sep.blank = true) (ts : List Text) :
    inked (sep.intercalate ts) = ts.flatMap inked := by
  induction ts with
  | nil => rfl
  | cons t rest ih =>
    cases rest with
    | nil => simp
    | cons u rest =>
      rw [List.intercalate_cons_cons, inked_append, inked_append, ih, inked_of_blank h,
        List.append_nil, ← List.flatMap_cons]

/-- Trimming and leaving out blank lines takes white space only. -/
theorem flatMap_inked_trimmed (lines : List Text) :
    ((lines.filter fun line => !line.blank).map Text.trim).flatMap inked =
      lines.flatMap inked := by
  induction lines with
  | nil => rfl
  | cons line rest ih =>
    by_cases h : line.blank = true
    · rw [List.filter_cons_of_neg (by simpa using h), ih, List.flatMap_cons, inked_of_blank h,
        List.nil_append]
    · rw [List.filter_cons_of_pos (by simpa using h), List.map_cons, List.flatMap_cons,
        List.flatMap_cons, inked_trim, ih]

theorem inked_flatten_runs (lines : List Text) :
    inked lines.flatten = (runs lines).flatMap fun run => inked run.flatten := by
  rw [inked_flatten, ← flatMap_inked_trimmed, ← flatten_runs, ← List.flatMap_id,
    List.flatMap_assoc]
  simp only [id_eq, inked_flatten]

/-- **How many equals signs of a group become number signs**: those of a
heading. -/
inductive Turns : List Text → Nat → Prop
  | heading {line title : Text} {level : Nat} : IsHeading line level title → Turns [line] level
  | none {group : List Text} :
      (∀ line level title, group = [line] → ¬ IsHeading line level title) → Turns group 0

theorem inked_replicate {c : Char} (h : isBlank c = false) (n : Nat) :
    inked (List.replicate n c) = List.replicate n c :=
  List.filter_replicate_of_pos (by simpa using h)

/-- The characters of a paragraph are those of its group, but for the marks
of a heading. -/
theorem Paragraph.exists_turned {group : List Text} {t : Text} (h : Paragraph group t) :
    ∃ count rest, Turns group count ∧
      inked group.flatten = List.replicate count '=' ++ rest ∧
      inked t = List.replicate count '#' ++ rest := by
  cases h with
  | @heading line title level hheading =>
    obtain ⟨gap, hline, -, -, hgap, -⟩ := id hheading
    refine ⟨level, inked title, .heading hheading, ?_, ?_⟩
    · rw [List.flatten_singleton, hline, inked_append, inked_append, inked_of_blank hgap,
        inked_replicate (by decide), List.nil_append]
    · rw [inked_append, inked_replicate (by decide)]
      rfl
  | line hline =>
    refine ⟨0, inked t, .none ?_, ?_, rfl⟩
    · rintro line level title ⟨⟩
      exact hline level title
    · rw [List.flatten_singleton]
      rfl
  | joined hlength =>
    refine ⟨0, group.flatMap inked, .none ?_, inked_flatten group, inked_intercalate rfl group⟩
    rintro line level title rfl
    exact absurd hlength (Nat.not_succ_le_self 1)

/-- A text with a number of marks in front of each of its parts. -/
def withMarks (mark : Char) (parts : List (Nat × Text)) : Text :=
  parts.flatMap fun part => List.replicate part.1 mark ++ part.2

theorem exists_turned {groups : List (List Text)} {ts : List Text}
    (h : List.Forall₂ Paragraph groups ts) :
    ∃ parts, List.Forall₂ (fun group part => Turns group part.1) groups parts ∧
      (groups.flatMap fun group => inked group.flatten) = withMarks '=' parts ∧
      ts.flatMap inked = withMarks '#' parts := by
  induction h with
  | nil => exact ⟨[], .nil, rfl, rfl⟩
  | cons hp _ ih =>
    obtain ⟨parts, hturns, hin, hout⟩ := ih
    obtain ⟨count, rest, hturn, hgroup, ht⟩ := hp.exists_turned
    refine ⟨(count, rest) :: parts, .cons hturn hturns, ?_, ?_⟩
    · rw [List.flatMap_cons, hin, hgroup]
      rfl
    · rw [List.flatMap_cons, hout, ht]
      rfl

/-! ## Prose -/

/-- **Lines read as prose**: some paragraphs, in a text. -/
structure ReadAsProse (lines ts : List Text) (out : Text) : Prop where
  /-- One paragraph for every group, in order. -/
  paragraphs : List.Forall₂ Paragraph (runs lines) ts
  joined : out = ("\n\n" : Text).intercalate ts
  /-- The text is cut at its blank lines into these paragraphs again. -/
  blocks : ts ≠ [] → blocksOf out = ts.map ([·])
  /-- No character but the marks of headings is changed, and only white space
  is added or left out. -/
  characters : ∃ parts, List.Forall₂ (fun group part => Turns group part.1) (runs lines) parts ∧
    inked lines.flatten = withMarks '=' parts ∧ inked out = withMarks '#' parts

theorem readAsProse_looseText (hlines : ∀ line ∈ lines, '\n' ∉ line) :
    ReadAsProse lines ((runs lines).map groupText) (looseText lines) where
  paragraphs := forall₂_groupText hlines
  joined := looseText_eq hlines
  blocks hne := by
    rw [looseText_eq hlines]
    refine blocksOf_intercalate hne (List.forall_mem_map.2 fun run hrun => ?_)
      (List.forall_mem_map.2 fun run hrun => ?_)
    · exact not_blank_groupText hlines hrun
    · exact (paragraph_of_mem_runs hlines hrun).not_mem fun _ => not_mem_of_mem_run hlines hrun
  characters := by
    obtain ⟨parts, hturns, hin, hout⟩ := exists_turned (forall₂_groupText hlines)
    refine ⟨parts, hturns, (inked_flatten_runs lines).trans hin, ?_⟩
    rw [looseText_eq hlines, inked_intercalate rfl, hout]

/-- **Blank lines next to blank ones, or at an end**, do not change the
text. -/
theorem looseText_append_blanks {blanks : List Text}
    (hblanks : ∀ line ∈ blanks, Text.blank line = true) (h : AtBlank before after) :
    looseText (before ++ (blanks ++ after)) = looseText (before ++ after) := by
  rw [looseText, groups_eq_runs, runs_append_blanks hblanks h, ← groups_eq_runs, ← looseText]

end Markup

end Treedown

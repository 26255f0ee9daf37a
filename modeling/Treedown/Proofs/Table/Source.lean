import Mathlib.Data.List.Basic
import Treedown.Proofs.Table.Plain
import Treedown.Proofs.Text.Cut
import Treedown.Table.Rebuilt
/-!
# Tables — which sources are usable

A table is rebuilt only from a usable source. `Unusable` lists what can be
wrong, without a word about how a source is looked for and read: the table
has not two columns, it has no source, nothing can be read there, there are
not two fences from the start line on, or between the fences no entry is
left. `layout_eq_error_iff` says that these are all the reasons for the
cell layout, apart from the option. The entries are counted without being
read (`length_entries`): a line that starts with a bar opens one, and any
other line adds to one or is passed over.
-/

namespace Treedown

namespace Table

variable {files : Files} {origin : Origin} {lines inside : List Text} {grid : Grid}

/-! ## The lines of a source -/

/-- **An origin gives lines**: its own, or else those of the file that it
names. -/
def Gives (files : Files) (origin : Origin) (lines : List Text) : Prop :=
  origin.lines = some lines ∨
    origin.lines = none ∧ ∃ path t, origin.path = some path ∧ files.readText path = .ok t ∧
      lines = t.lines

theorem originLines_eq_ok_iff : originLines files origin = .ok lines ↔ Gives files origin lines := by
  rw [Gives, originLines]
  cases hlines : origin.lines with
  | some own => simp
  | none =>
    cases hpath : origin.path with
    | none => simp
    | some path =>
      cases hread : files.readText path with
      | error cause => simp [hread]
      | ok t => simp [hread, eq_comm]

/-! ## The fenced span -/

/-- **The lines between the first two fences** at or after a line, which is
counted from one. -/
def Fenced (lines : List Text) (start : Nat) (inside : List Text) : Prop :=
  ∃ before front opening closing back,
    lines = before ++ front ++ opening :: inside ++ closing :: back ∧
      before.length = start - 1 ∧ isFence opening = true ∧ isFence closing = true ∧
      (∀ line ∈ front, isFence line = false) ∧ ∀ line ∈ inside, isFence line = false

/-- What `between` finds stands behind the first fence and in front of the
second one. -/
theorem exists_of_between (h : between lines = some inside) :
    ∃ front opening closing back, lines = front ++ opening :: inside ++ closing :: back ∧
      isFence opening = true ∧ isFence closing = true ∧
      (∀ line ∈ front, isFence line = false) ∧ ∀ line ∈ inside, isFence line = false := by
  unfold between at h
  split at h
  · cases h
  · rename_i opening rest hopen
    obtain ⟨front, hlines, hopening, hfront⟩ := Text.exists_of_dropWhile_eq_cons hopen
    by_cases hany : rest.any isFence = true
    · rw [if_pos hany, Option.some.injEq] at h
      subst h
      obtain ⟨closing, back, hclose⟩ : ∃ closing back,
          rest.dropWhile (!isFence ·) = closing :: back := by
        refine List.exists_cons_of_ne_nil fun hnil => ?_
        obtain ⟨line, hline, hfence⟩ := List.any_eq_true.1 hany
        have := List.dropWhile_eq_nil_iff.1 hnil line hline
        rw [hfence] at this
        cases this
      have hrest : rest = rest.takeWhile (!isFence ·) ++ closing :: back := by
        rw [← hclose, List.takeWhile_append_dropWhile]
      obtain ⟨-, -, hclosing, -⟩ := Text.exists_of_dropWhile_eq_cons hclose
      refine ⟨front, opening, closing, back, ?_, hopening, hclosing, hfront, fun line hline => ?_⟩
      · rw [List.append_assoc, List.cons_append, ← hrest, hlines]
      · simpa using List.mem_takeWhile_imp hline
    · rw [if_neg hany] at h
      cases h

/-- **The span of a source is what is fenced**, if anything is. -/
theorem span_eq_some_iff {start : Nat} : span lines start = some inside ↔ Fenced lines start inside := by
  constructor
  · intro h
    obtain ⟨front, opening, closing, back, hdrop, hopening, hclosing, hfront, hinside⟩ :=
      exists_of_between h
    have hlen : start - 1 < lines.length := by
      by_contra hle
      rw [List.drop_eq_nil_iff.2 (by omega)] at hdrop
      simp at hdrop
    refine ⟨lines.take (start - 1), front, opening, closing, back, ?_, ?_, hopening, hclosing,
      hfront, hinside⟩
    · rw [List.append_assoc, List.append_assoc, ← List.append_assoc front, ← hdrop,
        List.take_append_drop]
    · rw [List.length_take]
      omega
  · rintro ⟨before, front, opening, closing, back, rfl, hlen, hopening, hclosing, hfront, hinside⟩
    rw [span, List.append_assoc, List.append_assoc, ← hlen, List.drop_left, between]
    have hskip : (front ++ (opening :: inside ++ closing :: back)).dropWhile (!isFence ·) =
        opening :: inside ++ closing :: back := by
      rw [List.dropWhile_append_of_pos fun line hline => by simp [hfront line hline],
        List.cons_append, List.dropWhile_cons_of_neg (by simp [hopening])]
    have hbetween := between_fences back hopening hinside hclosing
    rw [between, List.cons_append, List.dropWhile_cons_of_neg (by simp [hopening])] at hbetween
    rw [hskip]
    exact hbetween

/-- Nothing is fenced where there are fewer than two fences. -/
theorem span_eq_none_iff {start : Nat} :
    span lines start = none ↔ (lines.drop (start - 1)).countP isFence ≤ 1 := by
  rw [span]
  generalize lines.drop (start - 1) = lines
  unfold between
  split
  · rename_i hnil
    have hzero : lines.countP isFence = 0 := by
      refine List.countP_eq_zero.2 fun line hline => ?_
      simpa using List.dropWhile_eq_nil_iff.1 hnil line hline
    simp [hzero]
  · rename_i opening rest hopen
    obtain ⟨front, hlines, hopening, hfront⟩ := Text.exists_of_dropWhile_eq_cons hopen
    have hzero : front.countP isFence = 0 :=
      List.countP_eq_zero.2 fun line hline => by simp [hfront line hline]
    have hcount : lines.countP isFence = rest.countP isFence + 1 := by
      rw [hlines, List.countP_append, hzero, List.countP_cons_of_pos hopening, Nat.zero_add]
    rw [hcount]
    by_cases hany : rest.any isFence = true
    · have hpos : 0 < rest.countP isFence := by
        rwa [List.countP_pos_iff, ← List.any_eq_true]
      rw [if_pos hany]
      refine iff_of_false (Option.some_ne_none _) ?_
      omega
    · have hrest : rest.countP isFence = 0 := by
        refine List.countP_eq_zero.2 fun line hline hfence => hany ?_
        exact List.any_eq_true.2 ⟨line, hline, hfence⟩
      rw [if_neg hany, hrest]
      exact iff_of_true rfl (Nat.le_refl 1)

/-! ## Counting entries -/

/-- Whether a line starts with a bar. -/
def startsWithBar (line : Text) : Bool :=
  line.head? = some '|'

/-- A line that starts with a bar is a bar and what follows it. -/
theorem exists_cons_of_startsWithBar {line : Text} (h : startsWithBar line = true) :
    ∃ t, line = '|' :: t := by
  match line with
  | [] => cases h
  | c :: t =>
    have hc : c = '|' := by simpa [startsWithBar] using h
    exact ⟨t, by rw [hc]⟩

/-- Trimming at the end leaves the first character. -/
theorem trimEnd_ne_cons_bar {line : Text} (h : startsWithBar line = false) (t : Text) :
    line.trimEnd ≠ '|' :: t := by
  intro htrim
  obtain ⟨behind, hline⟩ := Text.dropEndWhile_prefix_self isBlank line
  rw [← Text.trimEnd, htrim] at hline
  rw [← hline] at h
  cases h

/-- A line that does not start with a bar opens no entry. -/
theorem readLine_of_not_startsWithBar {line : Text} (h : startsWithBar line = false) (p : Progress) :
    (p.readLine line).stage = p.stage ∧ (p.readLine line).entries.length = p.entries.length ∧
      (p.entries = [] → p.readLine line = p) := by
  unfold Progress.readLine
  split
  · rename_i rest htrim
    exact absurd htrim (trimEnd_ne_cons_bar h rest)
  · split
    · exact ⟨rfl, rfl, fun _ => rfl⟩
    · split
      · exact ⟨rfl, rfl, fun _ => rfl⟩
      · rename_i entry before hentries
        refine ⟨rfl, ?_, fun hnil => ?_⟩
        · rw [hentries]
          rfl
        · rw [hentries] at hnil
          cases hnil

/-- **Behind the header every bar at the start of a line opens an entry**, and
nothing else does. -/
theorem length_entries_foldl {p : Progress} (hp : p.stage ≠ .headerAhead) (lines : List Text) :
    (lines.foldl Progress.readLine p).entries.length =
      p.entries.length + lines.countP startsWithBar := by
  induction lines generalizing p with
  | nil => rfl
  | cons line rest ih =>
    rw [List.foldl_cons]
    by_cases hbar : startsWithBar line = true
    · obtain ⟨t, rfl⟩ := exists_cons_of_startsWithBar hbar
      rw [readLine_of_bar hp, ih Stage.noConfusion, List.countP_cons_of_pos hbar, List.length_cons]
      omega
    · obtain ⟨hstage, hlen, -⟩ := readLine_of_not_startsWithBar (Bool.not_eq_true _ ▸ hbar) p
      rw [ih (hstage ▸ hp), hlen, List.countP_cons_of_neg hbar]

/-- While the header is still to come, the first bar is that of the header. -/
theorem length_entries_foldl_headerAhead (lines : List Text) :
    (lines.foldl Progress.readLine ⟨.headerAhead, []⟩).entries.length =
      lines.countP startsWithBar - 1 := by
  induction lines with
  | nil => rfl
  | cons line rest ih =>
    rw [List.foldl_cons]
    by_cases hbar : startsWithBar line = true
    · obtain ⟨t, rfl⟩ := exists_cons_of_startsWithBar hbar
      have hstage : Stage.header ≠ .headerAhead := Stage.noConfusion
      rw [readLine_cons_bar, if_pos rfl, length_entries_foldl hstage, List.countP_cons_of_pos hbar]
      simp
    · obtain ⟨-, -, hsame⟩ := readLine_of_not_startsWithBar (Bool.not_eq_true _ ▸ hbar)
        ⟨.headerAhead, []⟩
      rw [hsame rfl, ih, List.countP_cons_of_neg hbar]

/-- **The number of entries**: the lines that start with a bar, less the one of
the header. -/
theorem length_entries (headerFirst : Bool) (lines : List Text) :
    (entries headerFirst lines).length =
      lines.countP startsWithBar - if headerFirst then 1 else 0 := by
  rw [entries, List.length_map, List.length_reverse]
  cases headerFirst with
  | true => exact length_entries_foldl_headerAhead lines
  | false =>
    have hstage : Stage.body ≠ .headerAhead := Stage.noConfusion
    exact (length_entries_foldl (p := ⟨.body, []⟩) hstage lines).trans (Nat.zero_add _)

theorem rebuilt_eq_none_iff (role : Option Text) :
    rebuilt grid lines role = none ↔
      lines.countP startsWithBar ≤ if grid.header.isSome then 1 else 0 := by
  have hempty : (entries grid.header.isSome lines).isEmpty = true ↔
      lines.countP startsWithBar ≤ if grid.header.isSome then 1 else 0 := by
    rw [List.isEmpty_iff, ← List.length_eq_zero_iff, length_entries]
    omega
  rw [← hempty, rebuilt]
  by_cases h : (entries grid.header.isSome lines).isEmpty = true
  · simp [h]
  · simp [h]

/-! ## Usable sources -/

/-- **The source of a table is of no use.** -/
inductive Unusable (files : Files) (grid : Grid) : Prop
  | columns (h : grid.columnCount ≠ 2)
  | noSource (h : grid.source = none)
  | unreadable {origin : Origin} (h : grid.source = some origin)
      (hread : ∀ lines, ¬ Gives files origin lines)
  | noFences {origin : Origin} {lines : List Text} (h : grid.source = some origin)
      (hread : Gives files origin lines)
      (hfences : (lines.drop (startLine origin - 1)).countP isFence ≤ 1)
  /-- Behind the header, no line of the span starts with a bar. -/
  | noEntries {origin : Origin} {lines inside : List Text} (h : grid.source = some origin)
      (hread : Gives files origin lines) (hspan : Fenced lines (startLine origin) inside)
      (hbars : inside.countP startsWithBar ≤ if grid.header.isSome then 1 else 0)

theorem source_eq_ok_iff : source files origin = .ok inside ↔
    ∃ lines, Gives files origin lines ∧ Fenced lines (startLine origin) inside := by
  rw [source]
  cases hread : originLines files origin with
  | error fault =>
    refine iff_of_false (fun h => nomatch h) ?_
    rintro ⟨lines, hgives, -⟩
    rw [originLines_eq_ok_iff.2 hgives] at hread
    cases hread
  | ok lines =>
    have hgives (lines' : List Text) : Gives files origin lines' ↔ lines = lines' := by
      rw [← originLines_eq_ok_iff, hread, Except.ok.injEq]
    simp only [hgives, exists_eq_left']
    rw [← span_eq_some_iff]
    cases span lines (startLine origin) <;> simp

/-- Why no span is found. -/
theorem source_eq_error_iff : (∃ fault, source files origin = .error fault) ↔
    (∀ lines, ¬ Gives files origin lines) ∨
      ∃ lines, Gives files origin lines ∧
        (lines.drop (startLine origin - 1)).countP isFence ≤ 1 := by
  rw [source]
  cases hread : originLines files origin with
  | error fault =>
    refine iff_of_true ⟨fault, rfl⟩ (.inl fun lines hgives => ?_)
    rw [originLines_eq_ok_iff.2 hgives] at hread
    cases hread
  | ok lines =>
    have hgives (lines' : List Text) : Gives files origin lines' ↔ lines = lines' := by
      rw [← originLines_eq_ok_iff, hread, Except.ok.injEq]
    simp only [hgives, exists_eq_left']
    rw [← span_eq_none_iff, or_iff_right (fun h => h lines rfl)]
    cases span lines (startLine origin) <;> simp

/-- **A table is laid out from its cells just if its source is of no use**, or
where tables are not rebuilt at all. -/
theorem layout_eq_error_iff {rebuild : Bool} {role : Option Text} :
    (∃ reason, layout rebuild files grid role = .error reason) ↔
      rebuild = false ∨ Unusable files grid := by
  constructor
  · rintro ⟨reason, h⟩
    unfold layout at h
    by_cases hcolumns : grid.columnCount ≠ 2
    · exact .inr (.columns hcolumns)
    rw [if_neg hcolumns] at h
    cases rebuild with
    | false => exact .inl rfl
    | true =>
      refine .inr ?_
      cases hsource : grid.source with
      | none => exact .noSource hsource
      | some origin =>
        rw [hsource] at h
        cases hspan : source files origin with
        | error fault =>
          rcases source_eq_error_iff.1 ⟨fault, hspan⟩ with hread | ⟨lines, hread, hfences⟩
          · exact .unreadable hsource hread
          · exact .noFences hsource hread hfences
        | ok inside =>
          obtain ⟨lines, hread, hfenced⟩ := source_eq_ok_iff.1 hspan
          refine .noEntries hsource hread hfenced ((rebuilt_eq_none_iff role).1 ?_)
          cases hrebuilt : rebuilt grid inside role with
          | none => rfl
          | some t => simp [hspan, hrebuilt] at h
  · -- the reasons are looked at in their order; each of the later ones may hold as well
    intro h
    unfold layout
    by_cases hcolumns : grid.columnCount ≠ 2
    · exact ⟨_, if_pos hcolumns⟩
    rw [if_neg hcolumns]
    cases rebuild with
    | false => exact ⟨_, rfl⟩
    | true =>
      rcases h with h | h
      · cases h
      cases h with
      | columns h => exact absurd h hcolumns
      | noSource h => exact ⟨.noSource, by rw [h]; rfl⟩
      | unreadable h hread =>
        obtain ⟨fault, hfault⟩ := source_eq_error_iff.2 (.inl hread)
        exact ⟨.unusable fault, by rw [h]; simp [hfault]⟩
      | noFences h hread hfences =>
        obtain ⟨fault, hfault⟩ := source_eq_error_iff.2 (.inr ⟨_, hread, hfences⟩)
        exact ⟨.unusable fault, by rw [h]; simp [hfault]⟩
      | noEntries h hread hspan hbars =>
        have hok := source_eq_ok_iff.2 ⟨_, hread, hspan⟩
        have hnone := (rebuilt_eq_none_iff role).2 hbars
        exact ⟨.noEntries, by rw [h]; simp [hok, hnone]⟩

end Table

end Treedown

import Treedown.Proofs.Table.Source
/-!
# Tables — the fences of a source, by line numbers

A source is looked for between the first two fences from its start line on.
`FencedAt` says which lines these are by their numbers alone: two fences at
or after the start, no other one up to the second of them, and the lines
strictly between the two. They can be found in one way only
(`FencedAt.unique`), and they are found as soon as two fences stand at or
after the start (`exists_fenced_iff`). Numbers are counted from one, and a
start line that is absent or zero is the first. `source_fencedAt` reads the
source of a table in these terms. It also says that the lines in front of a
table have no say in it: with the start line moved by as many, the outcome is
the same.
-/

namespace Treedown

namespace Table

variable {files : Files} {origin : Origin} {lines inside inside' : List Text}
variable {start a b a' b' : Nat}

/-! ## Lines by their numbers -/

/-- **A fence stands in the line with this number**, counted from one. -/
def FenceAt (lines : List Text) (n : Nat) : Prop :=
  1 ≤ n ∧ ∃ line, lines[n - 1]? = some line ∧ "|===".toList <+: line

/-- **The lines between the first two fences** at or after a line: they stand
behind line `a` and in front of line `b`. -/
structure FencedAt (lines : List Text) (start a b : Nat) (inside : List Text) : Prop where
  start_le : start ≤ a
  lt : a < b
  opening : FenceAt lines a
  closing : FenceAt lines b
  first : ∀ n, start ≤ n → n < b → FenceAt lines n → n = a
  inside : inside = (lines.take (b - 1)).drop a

/-- Two fences stand at or after the line. -/
def HasTwoFences (lines : List Text) (start : Nat) : Prop :=
  ∃ a b, start ≤ a ∧ a < b ∧ FenceAt lines a ∧ FenceAt lines b

/-- **The line from which a source is read.** Zero is the number of no line;
it stands for the first, and so does no number. -/
def firstLine (origin : Origin) : Nat :=
  match origin.line with
  | some n => max 1 n.toNat
  | none => 1

theorem one_le_firstLine (origin : Origin) : 1 ≤ firstLine origin := by
  unfold firstLine
  split
  · exact Nat.le_max_left _ _
  · exact Nat.le_refl 1

/-- As many lines are passed over whether zero stands for one or not. -/
theorem startLine_sub_one (origin : Origin) : startLine origin - 1 = firstLine origin - 1 := by
  rw [startLine, firstLine]
  cases origin.line with
  | none => rfl
  | some n =>
    dsimp only
    omega

theorem isFence_iff {line : Text} : isFence line = true ↔ "|===".toList <+: line :=
  List.isPrefixOf_iff_prefix

/-- What stands in the middle of a list, by its distance from the front. -/
theorem mem_of_getElem?_middle {α : Type} (front : List α) {middle : List α} (back : List α)
    {n : Nat} {x : α}
    (h : (front ++ middle ++ back)[n]? = some x) (hfront : front.length ≤ n)
    (hback : n < front.length + middle.length) : x ∈ middle := by
  rw [List.append_assoc, List.getElem?_append_right hfront,
    List.getElem?_append_left (by omega)] at h
  exact List.mem_of_getElem? h

theorem fenceAt_append_cons {front back : List Text} {line : Text} (h : isFence line = true) :
    FenceAt (front ++ line :: back) (front.length + 1) := by
  refine ⟨Nat.succ_pos _, line, ?_, isFence_iff.1 h⟩
  rw [Nat.add_sub_cancel, List.getElem?_append_right (Nat.le_refl _), Nat.sub_self,
    List.getElem?_cons_zero]

/-- No fence stands among lines that are none. -/
theorem not_fenceAt_middle (front : List Text) {middle : List Text} (back : List Text) {n : Nat}
    (h : ∀ line ∈ middle, isFence line = false) (hfront : front.length < n)
    (hback : n ≤ front.length + middle.length) : ¬ FenceAt (front ++ middle ++ back) n := by
  rintro ⟨-, line, hline, hfence⟩
  have hno := h line (mem_of_getElem?_middle front back hline (by omega) (by omega))
  rw [isFence_iff.2 hfence] at hno
  cases hno

/-! ## Where lines are fenced -/

/-- **What is fenced stands between two fences**, whose numbers are told by
the lines in front of them. -/
theorem Fenced.exists_fencedAt (hstart : 1 ≤ start) (h : Fenced lines start inside) :
    ∃ a b, FencedAt lines start a b inside := by
  obtain ⟨before, front, opening, closing, back, rfl, hlength, hopening, hclosing, hfront, hinside⟩ :=
    h
  have hopen : before ++ front ++ opening :: inside ++ closing :: back =
      (before ++ front) ++ opening :: (inside ++ closing :: back) := by simp
  have hclose : before ++ front ++ opening :: inside ++ closing :: back =
      (before ++ front ++ opening :: inside) ++ closing :: back := rfl
  refine ⟨(before ++ front).length + 1, (before ++ front ++ opening :: inside).length + 1, ?_, ?_,
    hopen ▸ fenceAt_append_cons hopening, fenceAt_append_cons hclosing, ?_, ?_⟩
  · rw [List.length_append]
    omega
  · simp only [List.length_append, List.length_cons]
    omega
  · -- up to the second fence, all lines but the first fence are in front of it or inside
    intro n hn hlt hfence
    by_contra hne
    simp only [List.length_append, List.length_cons] at hlt hne
    rcases Nat.lt_or_ge (before.length + front.length) n with hin | hin
    · have hcut : before ++ front ++ opening :: inside ++ closing :: back =
          (before ++ front ++ [opening]) ++ inside ++ closing :: back := by simp
      have hlength : (before ++ front ++ [opening]).length = before.length + front.length + 1 := by
        simp only [List.length_append, List.length_singleton]
      rw [hcut] at hfence
      exact not_fenceAt_middle _ _ hinside (by omega) (by omega) hfence
    · have hcut : before ++ front ++ opening :: inside ++ closing :: back =
          before ++ front ++ (opening :: inside ++ closing :: back) := by simp
      rw [hcut] at hfence
      exact not_fenceAt_middle _ _ hfront (by omega) hin hfence
  · have hdrop : before ++ front ++ opening :: inside = (before ++ front ++ [opening]) ++ inside := by
      simp
    have hlen : (before ++ front).length + 1 = (before ++ front ++ [opening]).length := by
      simp only [List.length_append, List.length_singleton]
    rw [Nat.add_sub_cancel, hclose, List.take_left, hdrop, hlen, List.drop_left]

/-- **They are fenced in one way only.** -/
theorem FencedAt.unique (h : FencedAt lines start a b inside)
    (h' : FencedAt lines start a' b' inside') : inside = inside' := by
  have ha : a = a' := by
    rcases Nat.lt_or_ge a' b with hlt | hge
    · exact (h.first a' h'.start_le hlt h'.opening).symm
    · exact h'.first a h.start_le (by have := h.lt; have := h'.lt; omega) h.opening
  have hb : b = b' := by
    rcases Nat.lt_trichotomy b b' with hlt | heq | hgt
    · have := h'.first b (by have := h.start_le; have := h.lt; omega) hlt h.closing
      have := h.lt
      omega
    · exact heq
    · have := h.first b' (by have := h'.start_le; have := h'.lt; omega) hgt h'.closing
      have := h'.lt
      omega
  rw [h.inside, h'.inside, ha, hb]

/-- A fence is the first of the lines from its number on. -/
theorem FenceAt.drop_eq_cons (h : FenceAt lines a) :
    ∃ line, isFence line = true ∧ lines.drop (a - 1) = line :: lines.drop a := by
  obtain ⟨hpos, line, hline, hfence⟩ := h
  obtain ⟨hlt, rfl⟩ := List.getElem?_eq_some_iff.1 hline
  refine ⟨lines[a - 1], isFence_iff.2 hfence, ?_⟩
  rw [List.drop_eq_getElem_cons hlt, Nat.sub_add_cancel hpos]

/-- Two fences are two of the fences that are counted. -/
theorem HasTwoFences.two_le_countP (h : HasTwoFences lines start) :
    2 ≤ (lines.drop (start - 1)).countP isFence := by
  obtain ⟨a, b, hstart, hlt, hopening, hclosing⟩ := h
  obtain ⟨opening, hopens, hopen⟩ := hopening.drop_eq_cons
  obtain ⟨closing, hcloses, hclose⟩ := hclosing.drop_eq_cons
  calc
    2 ≤ 1 + (lines.drop (b - 1)).countP isFence := by
      rw [hclose, List.countP_cons_of_pos hcloses]
      omega
    _ ≤ 1 + (lines.drop a).countP isFence := by
      have hsuffix : lines.drop (b - 1) <:+ lines.drop a := List.drop_suffix_drop_left _ (by omega)
      have := hsuffix.sublist.countP_le (p := isFence)
      omega
    _ = (lines.drop (a - 1)).countP isFence := by
      rw [hopen, List.countP_cons_of_pos hopens, Nat.add_comm]
    _ ≤ (lines.drop (start - 1)).countP isFence :=
      (List.drop_suffix_drop_left lines (by omega)).sublist.countP_le

/-- **Lines are fenced as soon as two fences stand** at or after the start. -/
theorem exists_fenced_iff (hstart : 1 ≤ start) :
    (∃ inside, Fenced lines start inside) ↔ HasTwoFences lines start := by
  constructor
  · rintro ⟨inside, h⟩
    obtain ⟨a, b, h⟩ := h.exists_fencedAt hstart
    exact ⟨a, b, h.start_le, h.lt, h.opening, h.closing⟩
  · intro h
    have hcount := h.two_le_countP
    have hsome : span lines start ≠ none := fun hnone => by
      have := span_eq_none_iff.1 hnone
      omega
    obtain ⟨inside, hinside⟩ := Option.ne_none_iff_exists'.1 hsome
    exact ⟨inside, span_eq_some_iff.1 hinside⟩

theorem fenced_iff (hstart : 1 ≤ start) :
    Fenced lines start inside ↔ ∃ a b, FencedAt lines start a b inside := by
  constructor
  · exact Fenced.exists_fencedAt hstart
  · rintro ⟨a, b, h⟩
    obtain ⟨found, hfound⟩ :=
      (exists_fenced_iff hstart).2 ⟨a, b, h.start_le, h.lt, h.opening, h.closing⟩
    obtain ⟨a', b', h'⟩ := hfound.exists_fencedAt hstart
    exact h.unique h' ▸ hfound

/-! ## The source of a table -/

/-- Where an origin gives lines, it is their fences that decide. -/
theorem source_of_gives (h : Gives files origin lines) :
    source files origin =
      match span lines (startLine origin) with
      | some span => .ok span
      | none => .error (.noFences (startLine origin)) := by
  unfold source
  cases hspan : span lines (startLine origin) with
  | none => simp [originLines_eq_ok_iff.2 h, hspan]
  | some inside => simp [originLines_eq_ok_iff.2 h, hspan]

/-- Lines in front are passed over, if the start line counts them. -/
theorem span_append (front lines : List Text) (hstart : 1 ≤ start) :
    span (front ++ lines) (start + front.length) = span lines start := by
  rw [span, span, Nat.sub_add_comm hstart, Nat.add_comm, List.drop_length_add_append]

/-- **A source is fenced by the first two fences** from its start line on.
It is found just if two of the lines from there on are fences, and then it is
what stands strictly between the first two of these, no fence and no line
before the start; otherwise that is the fault. Lines may be put in front, be
they fences or not: if the start line is moved by their number, the same is
found, or again nothing is. -/
theorem source_fencedAt (hgives : Gives files origin lines) :
    ((∃ inside, source files origin = .ok inside) ↔ HasTwoFences lines (firstLine origin)) ∧
      (∀ inside, source files origin = .ok inside ↔
        ∃ a b, FencedAt lines (firstLine origin) a b inside) ∧
      (∀ inside, source files origin = .ok inside → ∀ line ∈ inside, ¬ "|===".toList <+: line) ∧
      (¬ HasTwoFences lines (firstLine origin) →
        source files origin = .error (.noFences (startLine origin))) ∧
      ∀ front moved, Gives files moved (front ++ lines) →
        firstLine moved = firstLine origin + front.length →
          (source files moved).toOption = (source files origin).toOption := by
  have hstart := one_le_firstLine origin
  have hspan : span lines (startLine origin) = span lines (firstLine origin) := by
    rw [span, startLine_sub_one, span]
  have hok (inside : List Text) :
      source files origin = .ok inside ↔ Fenced lines (firstLine origin) inside := by
    rw [source_of_gives hgives, hspan, ← span_eq_some_iff]
    cases span lines (firstLine origin) <;> simp
  refine ⟨?_, fun inside => (hok inside).trans (fenced_iff hstart), fun inside h line hline => ?_,
    fun hfew => ?_, fun front moved hmoved hfirst => ?_⟩
  · simp only [hok]
    exact exists_fenced_iff hstart
  · obtain ⟨-, -, -, -, -, -, -, -, -, -, hinside⟩ := (hok inside).1 h
    rw [← isFence_iff, hinside line hline]
    exact Bool.false_ne_true
  · have hnone : span lines (startLine origin) = none := by
      rw [hspan, Option.eq_none_iff_forall_ne_some]
      exact fun inside h => hfew ((exists_fenced_iff hstart).1 ⟨inside, span_eq_some_iff.1 h⟩)
    rw [source_of_gives hgives, hnone]
  · have hsame : span (front ++ lines) (startLine moved) = span lines (startLine origin) := by
      rw [hspan, ← span_append front lines hstart, ← hfirst, span, startLine_sub_one, span]
    rw [source_of_gives hmoved, source_of_gives hgives, hsame]
    cases span lines (startLine origin) <;> rfl

/-- Two tables, one directly behind the other. -/
def twoTables : List Text :=
  ["|===", "|a", "|===", "|=== ", "|b", "|===x"]

/-- Read from line four, the second table is found, and so it is from line five
on if another fence is put in front. -/
theorem source_fencedAt_twoTables :
    Gives .empty ⟨none, some 4, some twoTables⟩ twoTables ∧
      source .empty ⟨none, some 4, some twoTables⟩ = .ok ["|b"] ∧
      HasTwoFences twoTables 4 ∧ (∃ a b, FencedAt twoTables 4 a b ["|b"]) ∧
      (source .empty ⟨none, some 5, some (("|===" : Text) :: twoTables)⟩).toOption =
        (source .empty ⟨none, some 4, some twoTables⟩).toOption := by
  have hgives : Gives .empty ⟨none, some 4, some twoTables⟩ twoTables := .inl rfl
  have hmoved : Gives .empty ⟨none, some 5, some (("|===" : Text) :: twoTables)⟩
      (["|===".toList] ++ twoTables) := .inl rfl
  have hsource : source .empty ⟨none, some 4, some twoTables⟩ = .ok ["|b".toList] := by
    decide +kernel
  obtain ⟨hfound, hok, -, -, hsame⟩ := source_fencedAt hgives
  exact ⟨hgives, hsource, hfound.1 ⟨_, hsource⟩, (hok _).1 hsource,
    hsame ["|===".toList] ⟨none, some 5, some (("|===" : Text) :: twoTables)⟩ hmoved (by decide)⟩

end Table

end Treedown

import Treedown.Markup.Block
import Treedown.Proofs.Text.Cut
import Treedown.Proofs.Text.Lines
/-!
# Markup — where a block of code ends

A reader of CommonMark knows a block of code by its fences. Behind the opening
one the code goes on up to the first line that closes the block
(`ClosesBlock`), whatever its writer meant to be code. `readCode` is that
reader, and `readCode_fenced_iff` says what it makes of the blocks that are
written here: as the fence has three backticks in all of them, a line of code
that closes a block ends its own (`readCode_fenced_of_closes`).
-/

namespace Treedown

namespace Markup

variable {label line t : Text} {lines code behind : List Text}

/-! ## The lines of a block -/

/-- A fence without a label. -/
def fence : Text :=
  "```"

/-- **A block of code is its lines between two fences.** -/
theorem fenced_eq_unlines (label : Text) (lines : List Text) :
    fenced label lines = Text.unlines ((fence ++ label) :: (lines ++ [fence])) := by
  have hcode : lines.flatMap (· ++ ['\n']) ++ fence = Text.unlines (lines ++ [fence]) := by
    induction lines with
    | nil => exact List.intercalate_singleton.symm
    | cons line rest ih =>
      rw [List.flatMap_cons, List.append_assoc, ih, List.cons_append, Text.unlines, Text.unlines,
        List.intercalate_cons_of_ne_nil (by simp)]
  rw [Text.unlines, List.intercalate_cons_of_ne_nil (by simp), ← Text.unlines, ← hcode, fenced,
    List.append_assoc _ (lines.flatMap _)]
  rfl

theorem splitOn_fenced (hlabel : '\n' ∉ label) (hlines : ∀ line ∈ lines, '\n' ∉ line) :
    (fenced label lines).splitOn '\n' = (fence ++ label) :: (lines ++ [fence]) := by
  rw [fenced_eq_unlines]
  refine List.splitOn_intercalate '\n' (List.forall_mem_cons.2 ⟨?_, ?_⟩) (List.cons_ne_nil _ _)
  · exact List.not_mem_append (by decide) hlabel
  · exact List.forall_mem_append.2 ⟨hlines, List.forall_mem_singleton.2 (by decide)⟩

/-! ## Closing lines -/

/-- **A line that closes a block of code**: at most three spaces, three
backticks or more, and nothing but spaces and tabs behind them. -/
def ClosesBlock (line : Text) : Prop :=
  ∃ (indent marks : Nat) (behind : Text), indent ≤ 3 ∧ 3 ≤ marks ∧
    (∀ c ∈ behind, c = ' ' ∨ c = '\t') ∧
      line = Text.spaces indent ++ (List.replicate marks '`' ++ behind)

/-- Whether a line closes a block of code. -/
def closesBlock (line : Text) : Bool :=
  let marked := line.dropWhile (· = ' ')
  (line.takeWhile (· = ' ')).length ≤ 3 && 3 ≤ (marked.takeWhile (· = '`')).length &&
    (marked.dropWhile (· = '`')).all fun c => c = ' ' || c = '\t'

/-- **The test says which lines close a block.** -/
theorem closesBlock_iff : closesBlock line = true ↔ ClosesBlock line := by
  rw [closesBlock]
  simp only [Bool.and_eq_true, decide_eq_true_eq, List.all_eq_true, Bool.or_eq_true]
  constructor
  · rintro ⟨⟨hindent, hmarks⟩, hbehind⟩
    refine ⟨_, _, _, hindent, hmarks, hbehind, ?_⟩
    rw [Text.spaces, ← Text.takeWhile_eq_replicate, ← Text.takeWhile_eq_replicate,
      List.takeWhile_append_dropWhile, List.takeWhile_append_dropWhile]
  · rintro ⟨indent, marks, behind, hindent, hmarks, hbehind, rfl⟩
    -- the spaces end at the first backtick, and the backticks in front of the rest
    have hmarked : ∀ d ∈ (List.replicate marks '`' ++ behind).head?, d ≠ ' ' := by
      obtain ⟨more, rfl⟩ : ∃ more, marks = more + 1 := ⟨marks - 1, by omega⟩
      rintro d ⟨⟩
      decide
    have hrest : ∀ d ∈ behind.head?, d ≠ '`' := by
      intro d hd
      rcases hbehind d (List.mem_of_mem_head? hd) with rfl | rfl <;> decide
    obtain ⟨hspaces, hbackticks⟩ := Text.cut_replicate_append indent hmarked
    obtain ⟨htaken, hleft⟩ := Text.cut_replicate_append marks hrest
    rw [Text.spaces, hspaces, hbackticks, htaken, hleft, List.length_replicate,
      List.length_replicate]
    exact ⟨⟨hindent, hmarks⟩, hbehind⟩

instance : DecidablePred ClosesBlock := fun _ => decidable_of_iff _ closesBlock_iff

theorem closesBlock_fence : ClosesBlock fence := by decide

/-! ## Reading -/

/-- **A block of code as it is read**: the lines behind the opening fence up to
the first one that closes the block, and the lines behind that one. -/
def readCode (t : Text) : Option (List Text × List Text) :=
  let inside := (t.splitOn '\n').tail
  match inside.dropWhile (!closesBlock ·) with
  | [] => none
  | _ :: behind => some (inside.takeWhile (!closesBlock ·), behind)

/-- **What the reader finds**: a line that closes the block, and none in front of
it that does. -/
theorem readCode_eq_some_iff :
    readCode t = some (code, behind) ↔
      ∃ closing, (t.splitOn '\n').tail = code ++ closing :: behind ∧ ClosesBlock closing ∧
        ∀ line ∈ code, ¬ ClosesBlock line := by
  rw [readCode]
  generalize (t.splitOn '\n').tail = inside
  constructor
  · intro h
    split at h
    · cases h
    · rename_i closing rest hdrop
      obtain ⟨before, rfl, hclosing, hbefore⟩ := Text.exists_of_dropWhile_eq_cons hdrop
      rw [Text.takeWhile_run (by simpa using hbefore) (by simpa using hclosing)] at h
      cases h
      exact ⟨closing, rfl, closesBlock_iff.1 hclosing, fun line hline hcloses =>
        Bool.false_ne_true ((hbefore line hline).symm.trans (closesBlock_iff.2 hcloses))⟩
  · rintro ⟨closing, rfl, hclosing, hcode⟩
    have hrun : ∀ line ∈ code, (!closesBlock line) = true := fun line hline => by
      rw [Bool.not_eq_true', ← Bool.not_eq_true, closesBlock_iff]
      exact hcode line hline
    have hstop : (!closesBlock closing) = false := by
      rw [closesBlock_iff.2 hclosing, Bool.not_true]
    rw [Text.dropWhile_run hrun hstop, Text.takeWhile_run hrun hstop]

/-- **What is read of a block** is its code just if no line of this closes a
block. -/
theorem readCode_fenced_iff (hlabel : '\n' ∉ label) (hlines : ∀ line ∈ lines, '\n' ∉ line) :
    readCode (fenced label lines) = some (lines, []) ↔ ∀ line ∈ lines, ¬ ClosesBlock line := by
  rw [readCode_eq_some_iff, splitOn_fenced hlabel hlines, List.tail_cons]
  constructor
  · rintro ⟨closing, -, -, hcode⟩
    exact hcode
  · intro hcode
    exact ⟨fence, rfl, closesBlock_fence, hcode⟩

/-- **A line of code that closes a block** ends it, and leaves what stands
behind it outside. -/
theorem readCode_fenced_of_closes (hlabel : '\n' ∉ label) {before after : List Text}
    {closing : Text} (hlines : ∀ line ∈ before ++ closing :: after, '\n' ∉ line)
    (hclosing : ClosesBlock closing) (hbefore : ∀ line ∈ before, ¬ ClosesBlock line) :
    readCode (fenced label (before ++ closing :: after)) = some (before, after ++ [fence]) := by
  rw [readCode_eq_some_iff, splitOn_fenced hlabel hlines, List.tail_cons]
  exact ⟨closing, List.append_assoc _ _ _, hclosing, hbefore⟩

end Markup

end Treedown

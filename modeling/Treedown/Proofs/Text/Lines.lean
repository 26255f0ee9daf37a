import Mathlib.Data.List.Basic
import Treedown.Text.Basic
/-!
# Text — the lines of texts put together

The lines of a text are what stands between its line feeds. A line feed
between two texts puts the lines of the one behind those of the other
(`List.splitOn_append_cons_self`), so the lines of joined, hung and indented
texts are found without looking at characters. The pieces of a text keep
their line feeds, so they are what any such row of texts is cut into once it
has been put together (`pieces_flatten`). A file may end its lines in either
way and is read to the same lines (`lines_of_spells`).
-/

namespace Treedown

namespace Text

variable {t : Text} {line : Text}

/-! ## Joining -/

/-- What stands in a join comes from the separator or from one of the
lists. -/
theorem mem_intercalate {α : Type} {sep : List α} {ls : List (List α)} {x : α}
    (h : x ∈ sep.intercalate ls) : x ∈ sep ∨ ∃ l ∈ ls, x ∈ l := by
  induction ls with
  | nil => cases h
  | cons l rest ih =>
    cases rest with
    | nil =>
      rw [List.intercalate_singleton] at h
      exact .inr ⟨l, List.mem_cons_self, h⟩
    | cons m rest =>
      rw [List.intercalate_cons_cons, List.mem_append, List.mem_append] at h
      rcases h with (h | h) | h
      · exact .inr ⟨l, List.mem_cons_self, h⟩
      · exact .inl h
      · exact (ih h).imp_right fun ⟨l', hl, hx⟩ => ⟨l', List.mem_cons_of_mem l hl, hx⟩

theorem not_mem_intercalate {α : Type} {sep : List α} {ls : List (List α)} {x : α} (hsep : x ∉ sep)
    (h : ∀ l ∈ ls, x ∉ l) : x ∉ sep.intercalate ls := by
  intro hmem
  rcases mem_intercalate hmem with hmem | ⟨l, hl, hmem⟩
  · exact hsep hmem
  · exact h l hl hmem

/-! ## Lines -/

/-- No line holds a line feed. -/
theorem not_mem_of_mem_splitOn {c : Char} (h : line ∈ t.splitOn c) : c ∉ line := by
  induction t generalizing line with
  | nil =>
    rw [List.splitOn_nil, List.mem_singleton] at h
    rw [h]
    exact List.not_mem_nil
  | cons d t ih =>
    rw [List.splitOn_cons_eq_if_modifyHead] at h
    by_cases hd : (d == c) = true
    · rw [if_pos hd] at h
      rcases List.mem_cons.1 h with rfl | h
      · exact List.not_mem_nil
      · exact ih h
    · rw [if_neg hd] at h
      obtain ⟨first, rest, hsplit⟩ := List.exists_cons_of_ne_nil (List.splitOn_ne_nil c t)
      rw [hsplit, List.modifyHead_cons] at h
      rw [hsplit] at ih
      rcases List.mem_cons.1 h with rfl | h
      · refine List.not_mem_cons_of_ne_of_not_mem (fun heq => hd ?_) (ih List.mem_cons_self)
        rw [heq]
        exact beq_self_eq_true d
      · exact ih (List.mem_cons_of_mem first h)

/-- What stands in front of a text stands in front of its first line. -/
theorem splitOn_append_of_not_mem {front : Text} (h : '\n' ∉ front) {first : Text}
    {rest : List Text} (ht : t.splitOn '\n' = first :: rest) :
    (front ++ t).splitOn '\n' = (front ++ first) :: rest := by
  induction front with
  | nil => exact ht
  | cons c front ih =>
    obtain ⟨hc, hfront⟩ := not_or.1 (mt List.mem_cons.2 h)
    rw [List.cons_append, List.splitOn_cons_eq_if_modifyHead, if_neg, ih hfront]
    · rfl
    · rw [beq_iff_eq]
      exact fun heq => hc heq.symm

theorem not_mem_spaces (n : Nat) : '\n' ∉ spaces n := by
  intro h
  exact absurd (List.eq_of_mem_replicate h) (by decide)

/-- **Joined texts have the lines of all of them**, in order. -/
theorem splitOn_unlines {ts : List Text} (h : ts ≠ []) :
    (unlines ts).splitOn '\n' = ts.flatMap (·.splitOn '\n') := by
  induction ts with
  | nil => exact absurd rfl h
  | cons t rest ih =>
    cases rest with
    | nil =>
      rw [List.flatMap_singleton]
      exact congrArg _ (List.append_nil t)
    | cons u rest =>
      have hjoin : unlines (t :: u :: rest) = t ++ '\n' :: unlines (u :: rest) := by
        rw [unlines, List.intercalate_cons_cons, List.append_assoc]
        rfl
      rw [hjoin, List.splitOn_append_cons_self, ih (List.cons_ne_nil u rest)]
      rfl

/-- **Hanging moves every line but the first.** -/
theorem splitOn_hang (n : Nat) {first : Text} {rest : List Text}
    (h : t.splitOn '\n' = first :: rest) :
    (hang n t).splitOn '\n' = first :: rest.map (spaces n ++ ·) := by
  induction t generalizing first rest with
  | nil =>
    rw [List.splitOn_nil] at h
    obtain ⟨rfl, rfl⟩ := List.cons.inj h
    rfl
  | cons c t ih =>
    obtain ⟨next, more, ht⟩ := List.exists_cons_of_ne_nil (List.splitOn_ne_nil '\n' t)
    rw [List.splitOn_cons_eq_if_modifyHead, ht] at h
    by_cases hc : c = '\n'
    · -- a line ends here, and the next one is moved
      subst hc
      rw [if_pos (by decide)] at h
      obtain ⟨rfl, rfl⟩ := List.cons.inj h
      have hfirst := splitOn_append_of_not_mem (not_mem_spaces n) (ih ht)
      rw [hang, List.flatMap_cons, if_pos rfl, ← hang, List.cons_append,
        List.splitOn_cons_eq_if_modifyHead, if_pos (by decide), hfirst]
      rfl
    · have hbeq : ¬ (c == '\n') = true := by rwa [beq_iff_eq]
      rw [if_neg hbeq, List.modifyHead_cons] at h
      obtain ⟨rfl, rfl⟩ := List.cons.inj h
      rw [hang, List.flatMap_cons, if_neg hc, ← hang, List.singleton_append,
        List.splitOn_cons_eq_if_modifyHead, if_neg hbeq, ih ht]
      rfl

/-- **Indenting moves every line that is not empty.** -/
theorem splitOn_indent (n : Nat) (t : Text) :
    (indent n t).splitOn '\n' =
      (t.splitOn '\n').map fun line => if line.isEmpty then [] else spaces n ++ line := by
  rw [indent, unlines]
  refine List.splitOn_intercalate '\n' (fun line hline => ?_) ?_
  · obtain ⟨old, hold, rfl⟩ := List.mem_map.1 hline
    by_cases hempty : old.isEmpty = true
    · rw [if_pos hempty]
      exact List.not_mem_nil
    · rw [if_neg hempty, List.mem_append]
      exact not_or.2 ⟨not_mem_spaces n, not_mem_of_mem_splitOn hold⟩
  · exact fun hnil => List.splitOn_ne_nil '\n' t (List.map_eq_nil_iff.1 hnil)

/-! ## Pieces -/

/-- **What a text is cut into**: a line feed stands at the end of each piece
and nowhere else, and at the end of the last one it may be missing. -/
inductive ArePieces : List Text → Prop
  | nil : ArePieces []
  | last {t : Text} (hne : t ≠ []) (h : '\n' ∉ t) : ArePieces [t]
  | cons {t : Text} {ps : List Text} (h : '\n' ∉ t) (hps : ArePieces ps) :
      ArePieces ((t ++ ['\n']) :: ps)

variable {ps : List Text} {p : Text}

theorem arePieces_pieces (t : Text) : ArePieces t.pieces := by
  induction t with
  | nil => exact .nil
  | cons c t ih =>
    rw [pieces]
    by_cases hc : c = '\n'
    · subst hc
      exact .cons List.not_mem_nil ih
    · have hfree {t : Text} (h : '\n' ∉ t) : '\n' ∉ c :: t :=
        List.not_mem_cons_of_ne_of_not_mem (fun heq => hc heq.symm) h
      rw [if_neg hc]
      generalize pieces t = ps at ih ⊢
      cases ih with
      | nil => exact .last (List.cons_ne_nil c []) (hfree List.not_mem_nil)
      | last _ h => exact .last (List.cons_ne_nil c _) (hfree h)
      | cons h hps => exact .cons (hfree h) hps

theorem pieces_append_newline {t : Text} (h : '\n' ∉ t) (rest : Text) :
    pieces (t ++ '\n' :: rest) = (t ++ ['\n']) :: rest.pieces := by
  induction t with
  | nil => rw [List.nil_append, pieces, if_pos rfl, List.nil_append]
  | cons c t ih =>
    obtain ⟨hc, ht⟩ := not_or.1 (mt List.mem_cons.2 h)
    rw [List.cons_append, pieces, if_neg fun heq => hc heq.symm, ih ht]
    rfl

/-- **Behind a line feed the cutting starts anew.** -/
theorem pieces_append {a : Text} (h : a = [] ∨ a.getLast? = some '\n') (b : Text) :
    pieces (a ++ b) = pieces a ++ pieces b := by
  induction a with
  | nil => rfl
  | cons c rest ih =>
    rw [List.cons_append, pieces, pieces]
    cases rest with
    | nil =>
      have hc : c = '\n' := by simpa using h
      rw [if_pos hc, if_pos hc]
      rfl
    | cons d more =>
      have hlast : (d :: more).getLast? = some '\n' := by simpa using h
      obtain ⟨piece, others, hcut⟩ : ∃ piece others, pieces (d :: more) = piece :: others := by
        refine List.exists_cons_of_ne_nil fun hnil => ?_
        have hflat := flatten_pieces (d :: more)
        rw [hnil] at hflat
        cases hflat
      rw [ih (.inr hlast), hcut]
      by_cases hc : c = '\n'
      · rw [if_pos hc, if_pos hc]
        rfl
      · rw [if_neg hc, if_neg hc]
        rfl

/-- **Pieces that are put together** are what the text is cut into again. -/
theorem pieces_flatten (h : ArePieces ps) : pieces ps.flatten = ps := by
  induction h with
  | nil => rfl
  | @last t hne h =>
    rw [List.flatten_singleton]
    induction t with
    | nil => exact absurd rfl hne
    | cons c t ih =>
      obtain ⟨hc, ht⟩ := not_or.1 (mt List.mem_cons.2 h)
      rw [pieces, if_neg fun heq => hc heq.symm]
      cases t with
      | nil => rfl
      | cons d t => rw [ih (List.cons_ne_nil d t) ht]
  | cons h hps ih =>
    rw [List.flatten_cons, List.append_assoc, List.singleton_append, pieces_append_newline h, ih]

/-- A piece is free of line feeds but for the one that ends it. -/
theorem ArePieces.split (h : ArePieces ps) (hp : p ∈ ps) :
    ∃ front, '\n' ∉ front ∧ (p = front ∧ front ≠ [] ∨ p = front ++ ['\n']) := by
  induction h with
  | nil => cases hp
  | last hne h =>
    rw [List.mem_singleton.1 hp]
    exact ⟨_, h, .inl ⟨rfl, hne⟩⟩
  | cons h _ ih =>
    rcases List.mem_cons.1 hp with rfl | hp
    · exact ⟨_, h, .inr rfl⟩
    · exact ih hp

theorem chop_subset (c : Char) (t : Text) : chop c t ⊆ t := by
  rw [chop]
  split
  · exact List.dropLast_subset t
  · exact List.Subset.refl t

/-- No line of a file holds a line feed. -/
theorem not_mem_of_mem_lines (h : line ∈ t.lines) : '\n' ∉ line := by
  obtain ⟨piece, hpiece, rfl⟩ := List.mem_map.1 h
  obtain ⟨front, hfree, ⟨rfl, -⟩ | rfl⟩ := (arePieces_pieces t).split hpiece
  · rw [dropLineEnd, if_neg fun hlast => hfree (List.mem_of_getLast? hlast)]
    exact hfree
  · rw [dropLineEnd, if_pos List.getLast?_concat, List.dropLast_concat]
    exact fun hmem => hfree (chop_subset '\r' front hmem)

/-! ## Line ends -/

/-- **A text that spells lines**: each of them ends in a line feed, or in a
carriage return and a line feed. -/
inductive Spells : List Text → Text → Prop
  | nil : Spells [] []
  | feed (line : Text) {lines : List Text} {t : Text} (h : Spells lines t) :
      Spells (line :: lines) (line ++ '\n' :: t)
  | returnFeed (line : Text) {lines : List Text} {t : Text} (h : Spells lines t) :
      Spells (line :: lines) (line ++ '\r' :: '\n' :: t)

/-- A line feed is dropped, and nothing else where no carriage return stands
in front of it. -/
theorem dropLineEnd_feed (h : line.getLast? ≠ some '\r') : dropLineEnd (line ++ ['\n']) = line := by
  rw [dropLineEnd, if_pos List.getLast?_concat, List.dropLast_concat, chop, if_neg h]

theorem dropLineEnd_returnFeed (line : Text) : dropLineEnd (line ++ ['\r'] ++ ['\n']) = line := by
  rw [dropLineEnd, if_pos List.getLast?_concat, List.dropLast_concat, chop,
    if_pos List.getLast?_concat, List.dropLast_concat]

theorem lines_ne_nil (h : t ≠ []) : t.lines ≠ [] := fun hnil =>
  h (by rw [← flatten_pieces t, List.map_eq_nil_iff.1 hnil, List.flatten_nil])

/-- What is chopped off stands at the very end. -/
theorem chop_append (c : Char) (a : Text) {b : Text} (hb : b ≠ []) :
    chop c (a ++ b) = a ++ chop c b := by
  rw [chop, chop, List.getLast?_append_of_ne_nil a hb, List.dropLast_append_of_ne_nil hb]
  split <;> rfl

theorem unlines_map_dropLineEnd (hps : ArePieces ps) (h : '\r' ∉ ps.flatten) :
    unlines (ps.map dropLineEnd) = chop '\n' ps.flatten := by
  induction hps with
  | nil => rfl
  | @last t hne hfree =>
    have hlast : t.getLast? ≠ some '\n' := fun hlast => hfree (List.mem_of_getLast? hlast)
    rw [List.map_singleton, unlines, List.intercalate_singleton, List.flatten_singleton,
      dropLineEnd, if_neg hlast, chop, if_neg hlast]
  | @cons t ps hfree hps ih =>
    rw [List.flatten_cons, List.mem_append, not_or] at h
    have hreturn : t.getLast? ≠ some '\r' := fun hlast =>
      h.1 (List.mem_append_left _ (List.mem_of_getLast? hlast))
    rw [List.map_cons, dropLineEnd_feed hreturn, List.flatten_cons]
    cases ps with
    | nil =>
      rw [List.map_nil, unlines, List.intercalate_singleton, List.flatten_nil, List.append_nil,
        chop, if_pos List.getLast?_concat, List.dropLast_concat]
    | cons p ps =>
      -- more pieces follow, and a line feed at the end is one of theirs
      have hne : (p :: ps).flatten ≠ [] := fun hnil => by
        have hcut := pieces_flatten hps
        rw [hnil] at hcut
        cases hcut
      rw [chop_append '\n' _ hne, ← ih h.2, List.map_cons, unlines, List.intercalate_cons_cons,
        ← unlines]

/-- **Without carriage returns the lines of a file make up its text** again,
but for a line feed at the very end. -/
theorem unlines_lines (h : '\r' ∉ t) : unlines t.lines = chop '\n' t := by
  rw [Text.lines, unlines_map_dropLineEnd (arePieces_pieces t) (by rwa [flatten_pieces]),
    flatten_pieces]

/-- **Lines are read as they were spelled**, whichever way each of them
ends. -/
theorem lines_of_spells {lines : List Text} (h : Spells lines t)
    (hlines : ∀ line ∈ lines, '\n' ∉ line ∧ line.getLast? ≠ some '\r') : t.lines = lines := by
  induction h with
  | nil => rfl
  | @feed line lines t _ ih =>
    obtain ⟨⟨hfree, hlast⟩, hrest⟩ := List.forall_mem_cons.1 hlines
    rw [Text.lines, pieces_append_newline hfree, List.map_cons, dropLineEnd_feed hlast,
      ← Text.lines, ih hrest]
  | @returnFeed line lines t _ ih =>
    obtain ⟨⟨hfree, -⟩, hrest⟩ := List.forall_mem_cons.1 hlines
    have hreturn : '\n' ∉ line ++ ['\r'] := List.not_mem_append hfree (by decide)
    have hcut : line ++ '\r' :: '\n' :: t = (line ++ ['\r']) ++ '\n' :: t := by simp
    rw [hcut, Text.lines, pieces_append_newline hreturn, List.map_cons, dropLineEnd_returnFeed,
      ← Text.lines, ih hrest]

end Text

end Treedown

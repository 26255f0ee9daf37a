import Mathlib.Data.List.Basic
import Treedown.Proofs.Markup.Picture
import Treedown.Proofs.Text.Trim
/-!
# Markup — the macros that are found in a text

The scanner stops at the first `image:` in front of which no word ends. A
macro cannot begin in front of another one and end in it, since `image:`
begins with a letter that does not come again (`prefix_of_prefix_append`).
So where the text between macros holds no mark of a macro, the macros that
stand in a text are the ones that are found there, each at its place
(`segments_flatMap_written`), and each is replaced by its picture with the
text around it kept (`replaceMacros_flatMap_written`).
-/

namespace Treedown

namespace Markup

/-! ## Passing over text -/

/-- What every macro begins with. -/
def macroMark : Text := "image:"

theorem macroMark_prefix_of_macroAt? {t rest : Text} {m : PictureMacro}
    (h : macroAt? t = some (m, rest)) : macroMark <+: t := by
  obtain ⟨spelling, ⟨colon, -, -, -, -, -, rfl⟩, rfl⟩ := macroAt?_eq_some_iff.1 h
  rw [List.append_assoc]
  exact List.prefix_append _ _

/-- **No macro begins in front of another one.** The mark of a macro that
begins in a text ends there, if a macro or nothing follows the text. -/
theorem prefix_of_prefix_append {front tail : Text} (hfront : front ≠ [])
    (htail : ∀ c ∈ tail.head?, c = 'i') (h : macroMark <+: front ++ tail) :
    macroMark <+: front := by
  rcases List.prefix_or_prefix_of_prefix h (List.prefix_append front tail) with h' | ⟨x, hx⟩
  · exact h'
  cases x with
  | nil =>
    rw [List.append_nil] at hx
    exact hx ▸ List.prefix_refl front
  | cons d x =>
    exfalso
    -- the tail would go on with the rest of the mark
    rw [← hx, List.prefix_append_right_inj] at h
    obtain ⟨y, rfl⟩ := h
    obtain rfl : d = 'i' := htail d rfl
    obtain ⟨c, front, rfl⟩ := List.exists_cons_of_ne_nil hfront
    have hmem : 'i' ∈ ("mage:" : Text) := by
      have hrest : front ++ 'i' :: x = ("mage:" : Text) := (List.cons.inj hx).2
      rw [← hrest]
      exact List.mem_append_right _ List.mem_cons_self
    exact absurd hmem (by decide)

theorem segments_cons_char {c : Char} {rest : Text} (inWord : Bool)
    (h : macroAt? (c :: rest) = none) :
    segments inWord (c :: rest) = .char c :: segments (isWord c) rest := by
  rw [segments]
  split
  · rename_i m after hm
    split at hm
    · cases hm
    · rw [h] at hm
      cases hm
  · rfl

theorem segments_of_macroAt? {t rest : Text} {m : PictureMacro} (h : macroAt? t = some (m, rest)) :
    segments false t = .picture m :: segments false rest := by
  cases t with
  | nil => cases h
  | cons c t =>
    rw [segments]
    split
    · rename_i m' after hm
      rw [if_neg Bool.false_ne_true, h] at hm
      cases hm
      rfl
    · rename_i hm
      rw [if_neg Bool.false_ne_true, h] at hm
      cases hm

/-- **Text without a mark is passed over**, up to a macro or the end. -/
theorem segments_append {front tail : Text} (inWord : Bool) (hfront : ¬ macroMark <:+: front)
    (htail : ∀ c ∈ tail.head?, c = 'i') :
    segments inWord (front ++ tail) =
      front.map .char ++ segments (endsInWord inWord front) tail := by
  induction front generalizing inWord with
  | nil => rfl
  | cons c front ih =>
    have hbelow : ¬ macroMark <:+: front := fun h =>
      hfront (h.trans (List.suffix_cons c front).isInfix)
    have hnone : macroAt? (c :: (front ++ tail)) = none := by
      rw [Option.eq_none_iff_forall_ne_some]
      rintro ⟨m, rest⟩ hmacro
      have hmark := macroMark_prefix_of_macroAt? hmacro
      rw [← List.cons_append] at hmark
      exact hfront (prefix_of_prefix_append (List.cons_ne_nil c front) htail hmark).isInfix
    rw [List.cons_append, segments_cons_char inWord hnone, ih (isWord c) hbelow, List.map_cons,
      List.cons_append, endsInWord]

/-! ## Macros at their places -/

/-- **A macro at its place in a text**, with the text in front of it. No mark
of a macro is in that text, and it does not end in a word, which would go on
in the macro. -/
structure Placed where
  front : Text
  found : PictureMacro
  spelling : Text
  noMark : ¬ macroMark <:+: front
  noWord : front.getLast?.any isWord = false
  spelledBy : found.SpelledBy spelling

/-- The macro behind the text. -/
def Placed.written (p : Placed) : Text :=
  p.front ++ p.spelling

/-- **Behind the text the macro is found**, and the scanner goes on behind
it. -/
theorem segments_written (p : Placed) (rest : Text) :
    segments false (p.written ++ rest) =
      p.front.map .char ++ .picture p.found :: segments false rest := by
  have hmacro : macroAt? (p.spelling ++ rest) = some (p.found, rest) :=
    macroAt?_eq_some_iff.2 ⟨p.spelling, p.spelledBy, rfl⟩
  have hhead : ∀ c ∈ (p.spelling ++ rest).head?, c = 'i' := by
    obtain ⟨colon, -, -, -, -, -, hspelling⟩ := p.spelledBy
    rw [hspelling]
    intro c hc
    exact (Option.some.inj hc).symm
  have hword : endsInWord false p.front = false := by
    rw [endsInWord_false]
    exact p.noWord
  rw [Placed.written, List.append_assoc, segments_append false p.noMark hhead, hword,
    segments_of_macroAt? hmacro]

theorem segments_of_noMark {t : Text} (h : ¬ macroMark <:+: t) :
    segments false t = t.map .char := by
  have hend : segments (endsInWord false t) [] = [] := by rw [segments]
  have hall := segments_append false h (by simp : ∀ c ∈ ([] : Text).head?, c = 'i')
  rwa [List.append_nil, hend, List.append_nil] at hall

/-- **The macros that stand in a text are those that are found in it.** -/
theorem segments_flatMap_written (ps : List Placed) {last : Text} (hlast : ¬ macroMark <:+: last) :
    segments false (ps.flatMap Placed.written ++ last) =
      ps.flatMap (fun p => p.front.map Segment.char ++ [.picture p.found]) ++ last.map .char := by
  induction ps with
  | nil => exact segments_of_noMark hlast
  | cons p ps ih =>
    rw [List.flatMap_cons, List.flatMap_cons, List.append_assoc, segments_written, ih]
    simp only [List.append_assoc, List.cons_append, List.nil_append]

theorem flatMap_render_char (t : Text) : (t.map Segment.char).flatMap Segment.render = t := by
  rw [List.flatMap_map]
  exact List.flatMap_singleton' t

/-- **Each macro is replaced where it stands**, and the text around it is
kept. -/
theorem replaceMacros_flatMap_written {ps : List Placed} {last : Text} (hps : ps ≠ [])
    (hlast : ¬ macroMark <:+: last) :
    replaceMacros (ps.flatMap Placed.written ++ last) =
      some (ps.flatMap (fun p => p.front ++ p.found.render) ++ last) := by
  obtain ⟨p, rest, rfl⟩ := List.exists_cons_of_ne_nil hps
  have hany : (segments false ((p :: rest).flatMap Placed.written ++ last)).any
      Segment.isPicture = true := by
    rw [segments_flatMap_written _ hlast, List.any_eq_true]
    exact ⟨.picture p.found, by simp, rfl⟩
  rw [replaceMacros, if_pos hany, segments_flatMap_written _ hlast, List.flatMap_append,
    flatMap_render_char, List.flatMap_assoc]
  simp only [List.flatMap_append, flatMap_render_char, List.flatMap_singleton, Segment.render]

/-! ## Macros between blanks -/

/-- White space does not belong to words. -/
theorem isWord_of_isBlank {c : Char} (h : isBlank c = true) : isWord c = false := by
  have hblanks : blanks.all (fun c => !isWord c) = true := by decide +kernel
  simpa using of_isBlank hblanks h

theorem not_macroMark_of_blank {t : Text} (h : t.blank = true) : ¬ macroMark <:+: t := by
  intro hmark
  have hmem : 'i' ∈ t := hmark.subset (by decide : 'i' ∈ macroMark)
  exact absurd (Text.blank_iff.1 h 'i' hmem) (by decide)

/-- **A macro between blanks is replaced**, and the blanks stay. -/
theorem replaceMacros_of_spelledBy {m : PictureMacro} {front spelling back : Text}
    (hm : m.SpelledBy spelling) (hfront : front.blank = true) (hback : back.blank = true) :
    replaceMacros (front ++ spelling ++ back) = some (front ++ m.render ++ back) := by
  have hword : front.getLast?.any isWord = false := by
    cases hlast : front.getLast? with
    | none => rfl
    | some c => exact isWord_of_isBlank (Text.blank_iff.1 hfront c (List.mem_of_getLast? hlast))
  have h := replaceMacros_flatMap_written
    (List.cons_ne_nil ⟨front, m, spelling, not_macroMark_of_blank hfront, hword, hm⟩ [])
    (not_macroMark_of_blank hback)
  simpa only [List.flatMap_singleton, Placed.written] using h

end Markup

end Treedown

import Mathlib.Data.List.TakeWhile
import Treedown.Markup.Picture
import Treedown.Proofs.Text.Cut
import Treedown.Proofs.Text.Trim
/-!
# Markup — how image macros are spelled

The scanner of image macros says yes to a text exactly if the text is
spelled as a macro with something behind it (`macroAt?_eq_some_iff`). A
text has its macros replaced exactly if it holds one
(`replaceMacros_isSome_iff`), wherever that stands: taking a text apart
from the left misses none. Which lines stand alone is spelled out as well
(`isStandalone_iff_standsAlone`).
-/

namespace Treedown

namespace Markup

/-- **The spelling of a macro.** The colon may be doubled, the source is
not empty, holds neither a blank nor an opening bracket and does not begin
with a colon, and the parameters hold no closing bracket. -/
def PictureMacro.SpelledBy (m : PictureMacro) (t : Text) : Prop :=
  ∃ colon, (colon = [] ∨ colon = [':']) ∧ m.source ≠ [] ∧ (∀ c ∈ m.source, inSource c = true) ∧
    m.source.head? ≠ some ':' ∧ ']' ∉ m.parameters ∧
    t = "image:".toList ++ (colon ++ (m.source ++ '[' :: m.parameters ++ [']']))

theorem inSource_bracket : inSource '[' = false := by decide

/-- At most one colon is dropped. -/
theorem dropColon_split (t : Text) :
    ∃ colon, (colon = [] ∨ colon = [':']) ∧ t = colon ++ dropColon t := by
  unfold dropColon
  split
  · exact ⟨[':'], .inr rfl, rfl⟩
  · exact ⟨[], .inl rfl, rfl⟩

/-- A colon is dropped from in front of what begins with none. -/
theorem dropColon_append {colon t : Text} (hc : colon = [] ∨ colon = [':'])
    (ht : t.head? ≠ some ':') : dropColon (colon ++ t) = t := by
  rcases hc with rfl | rfl
  · rw [List.nil_append]
    unfold dropColon
    split
    · exact absurd rfl ht
    · rfl
  · rfl

/-- **The scanner finds what is spelled in front.** -/
theorem macroAt?_eq_some_iff {t rest : Text} {m : PictureMacro} :
    macroAt? t = some (m, rest) ↔ ∃ spelling, m.SpelledBy spelling ∧ t = spelling ++ rest := by
  constructor
  · intro h
    unfold macroAt? at h
    split at h
    · cases h
    rename_i body hbody
    rw [Text.after?_eq_some_iff] at hbody
    simp only [Bool.or_eq_true, List.isEmpty_iff, decide_eq_true_eq, Option.ite_none_left_eq_some,
      Option.map_eq_some_iff, Prod.exists, Prod.mk.injEq, not_or] at h
    obtain ⟨⟨hne, hcolon⟩, inner, behind, hbr, rfl, rfl⟩ := h
    obtain ⟨hinner, hrest⟩ := Text.bracketed?_eq_some_iff.1 hbr
    have hsplit := List.takeWhile_append_dropWhile (p := inSource) (l := dropColon body)
    obtain ⟨colon, hc, hb⟩ := dropColon_split body
    refine ⟨_, ⟨colon, hc, hne, fun c hmem => ?_, hcolon, hinner, rfl⟩, ?_⟩
    · exact List.mem_takeWhile_imp hmem
    · calc
        t = "image:".toList ++ (colon ++ dropColon body) := by rw [← hb, hbody]
        _ = "image:".toList ++ (colon ++ ((dropColon body).takeWhile inSource ++
              ('[' :: inner ++ ']' :: behind))) := by rw [← hrest, hsplit]
        _ = _ := by simp
  · rintro ⟨spelling, ⟨colon, hc, hne, hsource, hcolon, hparameters, rfl⟩, rfl⟩
    -- behind an optional colon the source begins, since it begins with no colon itself
    have hhead : (m.source ++ '[' :: (m.parameters ++ ']' :: rest)).head? ≠ some ':' := by
      obtain ⟨c, source, hs⟩ := List.exists_cons_of_ne_nil hne
      rw [hs] at hcolon ⊢
      exact hcolon
    have hbody : dropColon (colon ++ (m.source ++ '[' :: m.parameters ++ [']']) ++ rest) =
        m.source ++ '[' :: (m.parameters ++ ']' :: rest) := by
      rw [← dropColon_append hc hhead]
      simp
    have hafter : Text.after? "image:" ("image:".toList ++
        (colon ++ (m.source ++ '[' :: m.parameters ++ [']'])) ++ rest) =
          some (colon ++ (m.source ++ '[' :: m.parameters ++ [']']) ++ rest) := by
      rw [Text.after?_eq_some_iff, List.append_assoc]
    have hbr : Text.bracketed? ('[' :: (m.parameters ++ ']' :: rest)) = some (m.parameters, rest) :=
      Text.bracketed?_eq_some_iff.2 ⟨hparameters, rfl⟩
    unfold macroAt?
    rw [hafter]
    simp only [hbody, Text.takeWhile_run hsource inSource_bracket,
      Text.dropWhile_run hsource inSource_bracket, hbr, Option.map_some]
    rw [if_neg (by simp [hne, hcolon])]

/-- A spelling is not empty. -/
theorem PictureMacro.SpelledBy.ne_nil {m : PictureMacro} {t : Text} (h : m.SpelledBy t) : t ≠ [] := by
  obtain ⟨colon, -, -, -, -, -, rfl⟩ := h
  simp

/-! ## Macros anywhere in a text -/

/-- Whether the character before a place is a word character, where
`inWord` tells it for the place in front of the whole text. -/
def endsInWord (inWord : Bool) : Text → Bool
  | [] => inWord
  | c :: front => endsInWord (isWord c) front

theorem endsInWord_false (front : Text) : endsInWord false front = front.getLast?.any isWord := by
  suffices ∀ inWord, endsInWord inWord front = (front.getLast?.map isWord).getD inWord by
    rw [this]
    cases front.getLast? <;> rfl
  intro inWord
  induction front generalizing inWord with
  | nil => rfl
  | cons c front ih =>
    rw [endsInWord, ih, List.getLast?_cons]
    cases front.getLast? <;> rfl

/-- **Taking a text apart finds a macro if there is one anywhere.** Where
the scanner passes a character over, no macro begins. -/
theorem any_isPicture_segments_iff (inWord : Bool) (t : Text) :
    (segments inWord t).any Segment.isPicture = true ↔
      ∃ (front : Text) (m : PictureMacro) (spelling behind : Text),
        t = front ++ (spelling ++ behind) ∧ m.SpelledBy spelling ∧
          endsInWord inWord front = false := by
  fun_induction segments inWord t with
  | case1 inWord =>
    simp only [List.any_nil, Bool.false_eq_true, false_iff]
    rintro ⟨front, m, spelling, behind, ht, hm, -⟩
    have := hm.ne_nil
    simp_all
  | case2 inWord c rest m after hm ih =>
    simp only [List.any_cons, Segment.isPicture, Bool.true_or, true_iff]
    split at hm
    · cases hm
    rename_i hword
    obtain ⟨spelling, hspelled, ht⟩ := macroAt?_eq_some_iff.1 hm
    exact ⟨[], m, spelling, after, ht, hspelled, by simpa [endsInWord] using hword⟩
  | case3 inWord c rest hm ih =>
    rw [List.any_cons, Segment.isPicture, Bool.false_or, ih]
    constructor
    · rintro ⟨front, m, spelling, behind, rfl, hspelled, hfront⟩
      exact ⟨c :: front, m, spelling, behind, rfl, hspelled, hfront⟩
    · rintro ⟨front, m, spelling, behind, ht, hspelled, hfront⟩
      cases front with
      | nil =>
        have hfound : macroAt? (c :: rest) = some (m, behind) :=
          macroAt?_eq_some_iff.2 ⟨spelling, hspelled, ht⟩
        have hword : inWord = false := hfront
        rw [hword, hfound] at hm
        cases hm
      | cons d front =>
        cases ht
        exact ⟨front, m, spelling, behind, rfl, hspelled, hfront⟩

/-- **A text holds an image macro** if one is spelled somewhere in it, and
no word character stands right in front of that. -/
def HoldsMacro (t : Text) : Prop :=
  ∃ (front : Text) (m : PictureMacro) (spelling behind : Text),
    t = front ++ (spelling ++ behind) ∧ m.SpelledBy spelling ∧ front.getLast?.any isWord = false

/-- **Macros are replaced in the texts that hold one.** -/
theorem replaceMacros_isSome_iff {t : Text} : (replaceMacros t).isSome = true ↔ HoldsMacro t := by
  have h : (replaceMacros t).isSome = (segments false t).any Segment.isPicture := by
    rw [replaceMacros]
    split
    · rename_i h
      rw [h]
      rfl
    · rename_i h
      rw [Bool.not_eq_true] at h
      rw [h]
      rfl
  rw [h, any_isPicture_segments_iff, HoldsMacro]
  simp only [endsInWord_false]

/-! ## Lines that stand alone -/

/-- **What counts as a picture**: anything without blanks and brackets may
stand in front of the parameters. -/
theorem isStandalone_eq_true_iff {line : Text} : isStandalone line = true ↔
    ∃ target inner : Text, target ≠ [] ∧ (∀ c ∈ target, inSource c = true) ∧ ']' ∉ inner ∧
      line.trim = "image:".toList ++ (target ++ '[' :: inner ++ [']']) := by
  constructor
  · intro h
    unfold isStandalone at h
    split at h
    · cases h
    rename_i rest hrest
    rw [Bool.and_eq_true, Bool.not_eq_true', List.isEmpty_eq_false_iff] at h
    obtain ⟨hne, h⟩ := h
    split at h
    · rename_i inner behind hbr
      obtain rfl : behind = [] := List.isEmpty_iff.1 h
      obtain ⟨hinner, hdrop⟩ := Text.bracketed?_eq_some_iff.1 hbr
      refine ⟨rest.takeWhile inSource, inner, hne, fun c hc => List.mem_takeWhile_imp hc, hinner, ?_⟩
      rw [Text.after?_eq_some_iff.1 hrest, List.append_assoc, ← hdrop,
        List.takeWhile_append_dropWhile]
    · cases h
  · rintro ⟨target, inner, hne, htarget, hinner, hline⟩
    have hafter : Text.after? "image:" line.trim =
        some (target ++ '[' :: (inner ++ [']'])) := by
      rw [Text.after?_eq_some_iff, hline, List.append_assoc]
      rfl
    have hbr : Text.bracketed? ('[' :: (inner ++ [']'])) = some (inner, []) :=
      Text.bracketed?_eq_some_iff.2 ⟨hinner, rfl⟩
    rw [isStandalone, hafter]
    simp only [Text.takeWhile_run htarget inSource_bracket,
      Text.dropWhile_run htarget inSource_bracket, hbr]
    simp [hne]

/-- **A line that stands alone**: `image:` and something without white space
and opening brackets, the parameters in brackets, and white space around
them. -/
def StandsAlone (line : Text) : Prop :=
  ∃ front target inner back : Text, (∀ c ∈ front, isBlank c = true) ∧
    (∀ c ∈ back, isBlank c = true) ∧ target ≠ [] ∧
    (∀ c ∈ target, c ≠ '[' ∧ isBlank c = false) ∧ ']' ∉ inner ∧
    line = front ++ ("image:".toList ++ (target ++ '[' :: inner ++ [']'])) ++ back

theorem inSource_iff {c : Char} : inSource c = true ↔ c ≠ '[' ∧ isBlank c = false := by
  rw [inSource, Bool.and_eq_true, decide_eq_true_eq, Bool.not_eq_true']

/-- **The test says which lines stand alone.** -/
theorem isStandalone_iff_standsAlone {line : Text} : isStandalone line = true ↔ StandsAlone line := by
  rw [isStandalone_eq_true_iff]
  constructor
  · rintro ⟨target, inner, hne, htarget, hinner, htrim⟩
    obtain ⟨front, back, hfront, hback, hline⟩ := Text.exists_eq_append_trim_append line
    refine ⟨front, target, inner, back, Text.blank_iff.1 hfront, Text.blank_iff.1 hback, hne,
      fun c hc => inSource_iff.1 (htarget c hc), hinner, ?_⟩
    rw [← htrim]
    exact hline
  · rintro ⟨front, target, inner, back, hfront, hback, hne, htarget, hinner, rfl⟩
    refine ⟨target, inner, hne, fun c hc => inSource_iff.2 (htarget c hc), hinner, ?_⟩
    -- the macro begins and ends in characters that are no white space
    have hend : Text.trimEnd ("mage:".toList ++ (target ++ '[' :: inner ++ [']'])) =
        "mage:".toList ++ (target ++ '[' :: inner ++ [']']) := by
      rw [← List.append_assoc]
      exact Text.trimEnd_append_cons _ [] (by decide)
    have hmacro : Text.trim ("image:".toList ++ (target ++ '[' :: inner ++ [']'])) =
        "image:".toList ++ (target ++ '[' :: inner ++ [']']) :=
      (Text.trim_cons (by decide) _).trans (congrArg ('i' :: ·) hend)
    exact Text.trim_append_append (Text.blank_iff.2 hfront) (Text.blank_iff.2 hback) hmacro

end Markup

end Treedown

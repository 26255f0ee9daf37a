import Treedown.Include
import Treedown.Proofs.Text.Cut
/-!
# Include directives — the extension of a target

The file that a target names stands in a folder, and a suffix takes the place
of the extension of its name, which is what stands from the last dot on. A dot
that comes first marks a hidden file and starts no extension (`Stem`). What is
kept of a target does not depend on the suffix (`replaceExtension_eq`), and
a suffix is an extension to the next one: so the last of them wins
(`replaceExtension_lastSuffix`).
-/

namespace Treedown

namespace Include

variable {target folder name stem dropped extension : Text}

/-! ## The name of a file -/

/-- **The stem of a name**, and what a suffix drops behind it. -/
inductive Stem (name : Text) : Text → Text → Prop
  /-- A name without a dot, but perhaps a first one, is kept. -/
  | whole (h : '.' ∉ name.tail) : Stem name name []
  /-- Any other name is cut at its last dot. -/
  | cut {stem extension : Text} (hstem : stem ≠ []) (hdot : '.' ∉ extension)
      (heq : name = stem ++ '.' :: extension) : Stem name stem ('.' :: extension)

theorem stem?_eq_bind (name : Text) :
    stem? name = (Text.cutAt '.' name.reverse).bind fun parts =>
      if parts.2.isEmpty then none else some parts.2.reverse := by
  rw [stem?, Text.cutAt]
  cases name.reverse.dropWhile (· ≠ '.') <;> rfl

/-- **A name is cut at its last dot**, if something stands in front of it. -/
theorem stem?_eq_some_iff :
    stem? name = some stem ↔
      stem ≠ [] ∧ ∃ extension, '.' ∉ extension ∧ name = stem ++ '.' :: extension := by
  rw [stem?_eq_bind]
  constructor
  · intro h
    obtain ⟨⟨behind, before⟩, hcut, hstem⟩ := Option.bind_eq_some_iff.1 h
    obtain ⟨hdot, hname⟩ := Text.cutAt_reverse_eq_some_iff.1 hcut
    dsimp only at hstem
    split at hstem
    · cases hstem
    · rename_i hne
      obtain rfl := Option.some.inj hstem
      exact ⟨by simpa using hne, behind.reverse, by simpa using hdot, hname⟩
  · rintro ⟨hstem, extension, hdot, hname⟩
    have hcut : Text.cutAt '.' name.reverse = some (extension.reverse, stem.reverse) :=
      Text.cutAt_reverse_eq_some_iff.2 ⟨by simpa using hdot, by simpa using hname⟩
    rw [hcut, Option.bind_some, if_neg (by simpa using hstem), List.reverse_reverse]

/-- It is not cut where no dot stands behind its first character. -/
theorem stem?_eq_none_iff : stem? name = none ↔ '.' ∉ name.tail := by
  rw [← not_iff_not, ← ne_eq, Option.ne_none_iff_exists', not_not]
  constructor
  · rintro ⟨stem, h⟩
    obtain ⟨hstem, extension, -, rfl⟩ := stem?_eq_some_iff.1 h
    rw [List.tail_append_of_ne_nil hstem]
    exact List.mem_append_right _ List.mem_cons_self
  · intro h
    obtain ⟨front, extension, hname, hdot⟩ :=
      Text.exists_append_cons_of_mem (List.mem_of_mem_tail h)
    refine ⟨front, stem?_eq_some_iff.2 ⟨?_, extension, hdot, hname⟩⟩
    -- the last dot is not the first character, since there is one behind that
    rintro rfl
    rw [hname] at h
    exact hdot h

theorem exists_stem (name : Text) : ∃ stem dropped, Stem name stem dropped := by
  cases h : stem? name with
  | none => exact ⟨name, [], .whole (stem?_eq_none_iff.1 h)⟩
  | some stem =>
    obtain ⟨hstem, extension, hdot, hname⟩ := stem?_eq_some_iff.1 h
    exact ⟨stem, '.' :: extension, .cut hstem hdot hname⟩

namespace Stem

theorem append_eq (h : Stem name stem dropped) : name = stem ++ dropped := by
  cases h with
  | whole => rw [List.append_nil]
  | cut _ _ heq => exact heq

theorem getD_stem? (h : Stem name stem dropped) : (stem? name).getD name = stem := by
  cases h with
  | whole h => rw [stem?_eq_none_iff.2 h, Option.getD_none]
  | cut hstem hdot heq => rw [stem?_eq_some_iff.2 ⟨hstem, _, hdot, heq⟩, Option.getD_some]

/-- Something is kept of a name. -/
theorem ne_nil (h : Stem name stem dropped) (hname : name ≠ []) : stem ≠ [] := by
  cases h with
  | whole => exact hname
  | cut hstem => exact hstem

end Stem

/-! ## The parts of a target -/

/-- **A target and its parts**: the folder with the last slash, and the name
behind it. -/
structure HasParts (target folder name : Text) : Prop where
  eq_append : target = folder ++ name
  folder_end : folder = [] ∨ ∃ above, folder = above ++ ['/']
  not_mem_name : '/' ∉ name

theorem exists_hasParts (target : Text) : ∃ folder name, HasParts target folder name := by
  by_cases h : '/' ∈ target
  · obtain ⟨above, name, heq, hname⟩ := Text.exists_append_cons_of_mem h
    refine ⟨above ++ ['/'], name, ?_, .inr ⟨above, rfl⟩, hname⟩
    rw [heq, List.append_assoc, List.singleton_append]
  · exact ⟨[], target, rfl, .inl rfl, h⟩

namespace HasParts

/-- The name is found from behind. -/
theorem name_eq (h : HasParts target folder name) :
    (target.reverse.takeWhile (· ≠ '/')).reverse = name := by
  obtain ⟨rfl, hfolder, hname⟩ := h
  have hrun : ∀ c ∈ name.reverse, decide (c ≠ '/') = true := fun c hc =>
    decide_eq_true fun heq => hname (heq ▸ List.mem_reverse.1 hc)
  rw [List.reverse_append]
  rcases hfolder with rfl | ⟨above, rfl⟩
  · rw [List.reverse_nil, List.append_nil, List.takeWhile_eq_self_iff.2 hrun, List.reverse_reverse]
  · rw [List.reverse_concat, Text.takeWhile_run hrun (by decide), List.reverse_reverse]

/-- What is kept and what is dropped of the name make up the target. -/
theorem eq_append_append (h : HasParts target folder name) (hstem : Stem name stem dropped) :
    target = folder ++ stem ++ dropped := by
  rw [h.eq_append, hstem.append_eq, List.append_assoc]

/-- The folder is the same whatever the name is. -/
theorem withName (h : HasParts target folder name) {other : Text} (hother : '/' ∉ other) :
    HasParts (folder ++ other) folder other :=
  ⟨rfl, h.folder_end, hother⟩

end HasParts

/-! ## Replacing -/

/-- **A suffix stands behind the stem**, in the folder of the target. -/
theorem replaceExtension_eq (hparts : HasParts target folder name) (hstem : Stem name stem dropped)
    (suffix : Text) : replaceExtension target suffix = folder ++ stem ++ suffix := by
  rw [replaceExtension, hparts.name_eq, ← hstem.getD_stem?, hparts.eq_append, List.length_append,
    Nat.add_sub_cancel, List.take_left]
  cases stem? name <;> rfl

/-- **The last suffix wins**, and only the extension of the file name is
touched. Every target is kept up to a place in its file name, the same for all
suffixes; what is dropped is nothing, or a dot that does not come first in the
name, with all that stands behind it. Where there is a name, a suffix that is a
dot and a text without dots and slashes leaves no trace when it is replaced in
turn; behind a slash it would make a hidden file, which keeps it. -/
theorem replaceExtension_lastSuffix (target : Text) :
    ∃ folder name stem dropped, HasParts target folder name ∧ Stem name stem dropped ∧
      '/' ∉ dropped ∧ target = folder ++ stem ++ dropped ∧
      (∀ suffix, replaceExtension target suffix = folder ++ stem ++ suffix) ∧
      (name ≠ [] → ∀ extension, '.' ∉ extension → '/' ∉ extension → ∀ suffix,
        replaceExtension (replaceExtension target ('.' :: extension)) suffix =
          replaceExtension target suffix) := by
  obtain ⟨folder, name, hparts⟩ := exists_hasParts target
  obtain ⟨stem, dropped, hstem⟩ := exists_stem name
  have hslash : '/' ∉ stem ++ dropped := hstem.append_eq ▸ hparts.not_mem_name
  rw [List.mem_append, not_or] at hslash
  have hkept := replaceExtension_eq hparts hstem
  refine ⟨folder, name, stem, dropped, hparts, hstem, hslash.2, hparts.eq_append_append hstem,
    hkept, ?_⟩
  intro hname extension hdot hextension suffix
  -- the name that the first suffix makes is cut in front of that suffix again
  have hagain : HasParts (folder ++ (stem ++ '.' :: extension)) folder (stem ++ '.' :: extension) :=
    hparts.withName (List.not_mem_append hslash.1
      (List.not_mem_cons_of_ne_of_not_mem (by decide) hextension))
  rw [hkept, hkept, List.append_assoc]
  exact replaceExtension_eq hagain (.cut (hstem.ne_nil hname) hdot rfl) suffix

/-- An archive that is a hidden file, in a folder with a dot. -/
def hiddenArchive : Text :=
  "v1.2/.notes.tar.gz"

/-- **One extension of two is replaced**, and then replaced again. -/
theorem replaceExtension_lastSuffix_hiddenArchive :
    ∃ folder name stem dropped, HasParts hiddenArchive folder name ∧ Stem name stem dropped ∧
      name ≠ [] ∧ '.' ∉ "html".toList ∧ '/' ∉ "html".toList ∧
      replaceExtension hiddenArchive ".html" = "v1.2/.notes.tar.html".toList ∧
      replaceExtension hiddenArchive ".html" = folder ++ stem ++ ".html".toList ∧
      replaceExtension (replaceExtension hiddenArchive ".html") ".md" =
        "v1.2/.notes.tar.md".toList := by
  obtain ⟨folder, name, stem, dropped, hparts, hstem, -, -, hkept, hlast⟩ :=
    replaceExtension_lastSuffix hiddenArchive
  have hname : name ≠ [] := by
    rw [← hparts.name_eq]
    decide
  have hmd : replaceExtension hiddenArchive ".md" = "v1.2/.notes.tar.md".toList := by decide
  exact ⟨folder, name, stem, dropped, hparts, hstem, hname, by decide, by decide, by decide,
    hkept ".html", (hlast hname "html" (by decide) (by decide) ".md").trans hmd⟩

end Include

end Treedown

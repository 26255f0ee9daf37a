import Treedown.Text.Casing
/-!
# Text — casing stays on the line

No character but a line feed becomes one in either case, so a word that is
written with a capital is on one line if it was before. ASCII letters are
gone through one by one; all others are mapped by table, where each run and
each group stays above the control characters.
-/

namespace Treedown

namespace Casing

theorem eq_of_ofNat_eq_newline {n : Nat} (h : Char.ofNat n = '\n') : n = 10 := by
  by_cases hvalid : n.isValidChar
  · rw [Char.ofNat, dif_pos hvalid] at h
    exact congrArg Char.toNat h
  · rw [Char.ofNat, dif_neg hvalid] at h
    exact absurd h (by decide)

/-- Whether every run of a table leads to characters above the line feed. -/
def clearsNewline (runs : List CaseRun) : Bool :=
  runs.all fun (first, _, _, by_) => 10 < (first : Int) + by_

theorem clearsNewline_runs : clearsNewline lowerRuns ∧ clearsNewline upperRuns := by
  decide +kernel

variable {c : Char}

theorem shift_ne_newline {runs : List CaseRun} (hruns : clearsNewline runs) (hc : c ≠ '\n') :
    shift runs c ≠ '\n' := by
  rw [shift]
  split
  · rename_i first last step by_ hfind
    have hfirst : first ≤ c.toNat := by
      have hholds := List.find?_some hfind
      simp only [Bool.and_eq_true, decide_eq_true_eq] at hholds
      exact hholds.1.1
    have hclear : 10 < (first : Int) + by_ := by
      simpa using List.all_eq_true.1 hruns _ (List.mem_of_find?_eq_some hfind)
    intro heq
    have := eq_of_ofNat_eq_newline heq
    omega
  · exact hc

/-- **A character becomes a line feed in neither case**, unless it is one. -/
theorem not_mem_casing (hc : c ≠ '\n') : '\n' ∉ upcase c ∧ '\n' ∉ downcase c := by
  by_cases hascii : c.toNat < 0x80
  · have hall : ∀ n < 0x80, Char.ofNat n ≠ '\n' →
        (Char.ofNat n).toUpper ≠ '\n' ∧ (Char.ofNat n).toLower ≠ '\n' := by
      decide +kernel
    have hc := hall c.toNat hascii (by rwa [Char.ofNat_toNat])
    rw [Char.ofNat_toNat] at hc
    rw [upcase, if_pos hascii, downcase, if_pos hascii, List.mem_singleton, List.mem_singleton]
    exact ⟨hc.1.symm, hc.2.symm⟩
  · rw [upcase, if_neg hascii, downcase, if_neg hascii]
    constructor
    · split
      · rename_i group hlookup
        have hgroups : ∀ g ∈ upperGroups, '\n' ∉ g.2.map Char.ofNat := by decide +kernel
        obtain ⟨_, _, hsplit, -⟩ := List.lookup_eq_some_iff.1 hlookup
        exact hgroups (c.toNat, group) (hsplit ▸ List.mem_append_right _ List.mem_cons_self)
      · exact fun h => shift_ne_newline clearsNewline_runs.2 hc (List.mem_singleton.1 h).symm
    · split
      · decide
      · exact fun h => shift_ne_newline clearsNewline_runs.1 hc (List.mem_singleton.1 h).symm

end Casing

/-- **A word on one line** stays there when it is capitalized. -/
theorem Text.not_mem_capitalize {t : Text} (h : '\n' ∉ t) : '\n' ∉ t.capitalize := by
  cases t with
  | nil => exact List.not_mem_nil
  | cons c rest =>
    obtain ⟨hc, hrest⟩ := not_or.1 (mt List.mem_cons.2 h)
    refine List.not_mem_append (Casing.not_mem_casing (Ne.symm hc)).1 fun hmem => ?_
    obtain ⟨d, hd, hmem⟩ := List.mem_flatMap.1 hmem
    have hne : d ≠ '\n' := fun heq => hrest (heq ▸ hd)
    exact (Casing.not_mem_casing hne).2 hmem

end Treedown

import Treedown.Proofs.Markup.Loose
import Treedown.Render.Basic
/-!
# Rendering — listings that are no code

A listing below an example, or with a style that is not one of code, is
read as prose (`listing_of_readsLoosely`). `render_looseListing` says what
becomes of its lines, whatever they are: every group of them has one
paragraph of the text, more blank lines change nothing, and no character but
the marks of headings is changed.
-/

namespace Treedown

namespace Render

open Markup

variable {f : Fields}

/-- The context below nodes of some kinds, the outermost first. -/
def Context.below (root : Fields) (above : List Kind) : Context :=
  above.foldl Context.within (.ofRoot root)

/-- Once below an example, a node stays in it. -/
theorem inExample_foldl_within (c : Context) (above : List Kind) :
    (above.foldl Context.within c).inExample = true ↔
      c.inExample = true ∨ .known .example ∈ above := by
  induction above generalizing c with
  | nil => simp
  | cons kind rest ih =>
    rw [List.foldl_cons, ih, Context.within, Bool.or_eq_true, decide_eq_true_eq, List.mem_cons,
      or_assoc, @eq_comm _ kind]

theorem inExample_below (root : Fields) (above : List Kind) :
    (Context.below root above).inExample = true ↔ .known .example ∈ above :=
  (inExample_foldl_within _ above).trans (or_iff_right Bool.false_ne_true)

/-- **A listing that is no code**, by the kinds of the nodes above it and by
its style. -/
def ReadsLoosely (above : List Kind) (f : Fields) : Prop :=
  .known .example ∈ above ∨ ∃ style, f.style? = some style ∧ style ≠ "source" ∧ style ≠ "listing"

/-- Its lines are read as prose. -/
theorem listing_of_readsLoosely {above : List Kind} (root : Fields) (h : ReadsLoosely above f) :
    listing (.below root above) f = looseText f.lines := by
  rw [listing]
  by_cases hexample : (Context.below root above).inExample = true
  · rw [if_pos hexample]
  · rw [if_neg hexample]
    rcases h with habove | ⟨style, hstyle, hsource, hlisting⟩
    · exact absurd ((inExample_below root above).2 habove) hexample
    · rw [hstyle]
      exact (if_neg hsource).trans (if_neg hlisting)

/-- **A listing that is no code keeps its lines.** Its text has one paragraph
for every group of lines, and its characters are those of the lines but for
white space and the marks of headings. Blank lines that are put in next to
blank ones or at an end do not change it. -/
theorem render_looseListing (s : Setting) (root : Fields) {above : List Kind}
    (children : List Node) (h : ReadsLoosely above f) (hlines : ∀ line ∈ f.lines, '\n' ∉ line) :
    ∃ out, render s (.below root above) (.mk (.known .listing) f children) = .ok out ∧
      (∃ ts, ReadAsProse f.lines ts out) ∧
      ∀ before blanks after, f.lines = before ++ after → AtBlank before after →
        (∀ line ∈ blanks, Text.blank line = true) →
        render s (.below root above)
          (.mk (.known .listing) { f with lines := before ++ (blanks ++ after) } children) =
            .ok out := by
  refine ⟨looseText f.lines, ?_, ⟨_, readAsProse_looseText hlines⟩, ?_⟩
  · exact congrArg Except.ok (listing_of_readsLoosely root h)
  · intro before blanks after hcut hplace hblanks
    rw [hcut, ← looseText_append_blanks hblanks hplace]
    exact congrArg Except.ok (listing_of_readsLoosely root h)

/-- Groups of lines with blank ones around them: two lines, a heading, and two
lines of which the first looks like one. -/
def proseFields : Fields :=
  { Fields.empty with lines := ["", " one", "two ", "", "\t", "==  A title", " ", "= a", "b"] }

/-- **Three groups below an example**, with a further blank line at the end. -/
theorem render_looseListing_groups :
    ReadsLoosely [.known .document, .known .example] proseFields ∧
      (∀ line ∈ proseFields.lines, '\n' ∉ line) ∧
      render ⟨.standard, .empty⟩ (.below .empty [.known .document, .known .example])
        (.mk (.known .listing) proseFields []) = .ok "one two\n\n## A title\n\n= a b".toList ∧
      (∃ ts, ReadAsProse proseFields.lines ts "one two\n\n## A title\n\n= a b") ∧
      render ⟨.standard, .empty⟩ (.below .empty [.known .document, .known .example])
        (.mk (.known .listing) { proseFields with lines := proseFields.lines ++ [[' ', ' ']] } []) =
          .ok "one two\n\n## A title\n\n= a b".toList := by
  have hloose : ReadsLoosely [.known .document, .known .example] proseFields := .inl (by decide)
  have hlines : ∀ line ∈ proseFields.lines, '\n' ∉ line := by decide
  obtain ⟨out, hout, hprose, hmore⟩ :=
    render_looseListing ⟨.standard, .empty⟩ .empty [] hloose hlines
  have hrun : render ⟨.standard, .empty⟩ (.below .empty [.known .document, .known .example])
      (.mk (.known .listing) proseFields []) =
        .ok "one two\n\n## A title\n\n= a b".toList := by decide +kernel
  obtain rfl := Except.ok.inj (hout.symm.trans hrun)
  exact ⟨hloose, hlines, hrun, hprose,
    hmore proseFields.lines [[' ', ' ']] [] (List.append_nil _).symm (.inr (.inl rfl)) (by decide)⟩

end Render

end Treedown

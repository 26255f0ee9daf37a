import Treedown.Proofs.Markup.Fence
import Treedown.Proofs.Render.LooseListing
/-!
# Rendering — code in a fence

Literal blocks, and listings that are not read as prose, are written as code in
a fence, with their lines as they are (`render_of_isFenced`). A reader of
CommonMark gives these lines back just if none of them closes a block of code,
and otherwise those in front of the first one that does
(`render_fencedCode`).
-/

namespace Treedown

namespace Render

open Markup

variable {f : Fields} {above : List Kind} {kind : Kind} {label : Text}

/-- The label of a listing's fence: the language, where the listing is source
code. -/
def codeLabel (f : Fields) : Text :=
  if f.style? = some "source".toList then (f.attribute? "language").getD [] else []

/-- **A node that is written as code in a fence** with a label, by its kind and
by the kinds of the nodes above it. -/
inductive IsFenced (above : List Kind) (f : Fields) : Kind → Text → Prop
  | literal : IsFenced above f (.known .literal) []
  | listing (h : ¬ ReadsLoosely above f) : IsFenced above f (.known .listing) (codeLabel f)

theorem listing_of_not_readsLoosely (root : Fields) (h : ¬ ReadsLoosely above f) :
    listing (.below root above) f = fenced (codeLabel f) f.lines := by
  rw [ReadsLoosely, not_or] at h
  obtain ⟨hexample, hstyles⟩ := h
  rw [listing, if_neg (mt (inExample_below root above).1 hexample), codeLabel]
  cases hstyle : f.style? with
  | none => rfl
  | some style =>
    dsimp only
    by_cases hsource : style = "source".toList
    · rw [if_pos hsource, if_pos (congrArg some hsource)]
    · have hlisting : style = "listing".toList := by
        by_contra hlisting
        exact hstyles ⟨style, hstyle, hsource, hlisting⟩
      rw [if_neg hsource, if_pos hlisting, if_neg fun heq => hsource (Option.some.inj heq)]

/-- **The fence is written around the lines** of the node. -/
theorem render_of_isFenced (s : Setting) (root : Fields) (children : List Node)
    (h : IsFenced above f kind label) :
    render s (.below root above) (.mk kind f children) = .ok (fenced label f.lines) := by
  cases h with
  | literal => rfl
  | listing h => exact congrArg Except.ok (listing_of_not_readsLoosely root h)

/-- **A block of code ends where it should**, unless its code shows a fence.
Behind the opening fence the lines of the node are read, and nothing behind the
closing one, just if none of these lines closes a block; and otherwise the code
ends at the first of them that does. -/
theorem render_fencedCode (s : Setting) (root : Fields) (children : List Node)
    (h : IsFenced above f kind label) (hlabel : '\n' ∉ label)
    (hlines : ∀ line ∈ f.lines, '\n' ∉ line) :
    ∃ out, render s (.below root above) (.mk kind f children) = .ok out ∧
      (out.splitOn '\n').head? = some (fence ++ label) ∧
      (readCode out = some (f.lines, []) ↔ ∀ line ∈ f.lines, ¬ ClosesBlock line) ∧
      ∀ before closing after, f.lines = before ++ closing :: after → ClosesBlock closing →
        (∀ line ∈ before, ¬ ClosesBlock line) → readCode out = some (before, after ++ [fence]) := by
  refine ⟨fenced label f.lines, render_of_isFenced s root children h, ?_,
    readCode_fenced_iff hlabel hlines, ?_⟩
  · rw [splitOn_fenced hlabel hlines, List.head?_cons]
  · intro before closing after hcut hclosing hbefore
    rw [hcut] at hlines ⊢
    exact readCode_fenced_of_closes hlabel hlines hclosing hbefore

/-- A listing whose lines look like fences and close none: too few backticks,
too far to the right, or with a text behind. -/
def nearFences : Fields :=
  { Fields.empty with
    attributes := .ofPairs [("style", "source"), ("language", "md")]
    lines := ["``", "    ```", "```sh", "", "\t```"] }

theorem render_fencedCode_nearFences :
    IsFenced [.known .document, .known .ulist, .known .listItem] nearFences (.known .listing) "md" ∧
      '\n' ∉ "md".toList ∧ (∀ line ∈ nearFences.lines, '\n' ∉ line) ∧
      render ⟨.standard, .empty⟩
        (.below .empty [.known .document, .known .ulist, .known .listItem])
        (.mk (.known .listing) nearFences []) =
          .ok "```md\n``\n    ```\n```sh\n\n\t```\n```".toList ∧
      readCode "```md\n``\n    ```\n```sh\n\n\t```\n```" = some (nearFences.lines, []) := by
  have hfenced : IsFenced [.known .document, .known .ulist, .known .listItem] nearFences
      (.known .listing) "md" := by
    refine .listing ?_
    rintro (hexample | ⟨style, hstyle, hsource, -⟩)
    · exact absurd hexample (by decide)
    · exact hsource (Option.some.inj hstyle).symm
  have hlines : ∀ line ∈ nearFences.lines, '\n' ∉ line := by decide
  obtain ⟨out, hout, -, hread, -⟩ :=
    render_fencedCode ⟨.standard, .empty⟩ .empty [] hfenced (by decide) hlines
  have hrun : render ⟨.standard, .empty⟩
      (.below .empty [.known .document, .known .ulist, .known .listItem])
      (.mk (.known .listing) nearFences []) =
        .ok "```md\n``\n    ```\n```sh\n\n\t```\n```".toList := by decide +kernel
  obtain rfl := Except.ok.inj (hout.symm.trans hrun)
  exact ⟨hfenced, by decide, hlines, hrun, hread.2 (by decide)⟩

/-- A literal block that shows how a block of code is written. -/
def shownFence : Fields :=
  { Fields.empty with lines := ["Run:", "```sh", "ls", "```"] }

/-- **A shown fence ends the block** that shows it: its last line is read as the
closing fence, and the closing fence as a line behind the block. -/
theorem not_readCode_shownFence :
    IsFenced [.known .document] shownFence (.known .literal) [] ∧
      (∀ line ∈ shownFence.lines, '\n' ∉ line) ∧
      renderTree ⟨.standard, .empty⟩
        (.mk (.known .document) .empty [.mk (.known .literal) shownFence []]) =
          .ok "```\nRun:\n```sh\nls\n```\n```".toList ∧
      readCode "```\nRun:\n```sh\nls\n```\n```" =
        some (["Run:".toList, "```sh".toList, "ls".toList], ["```".toList]) ∧
      ¬ ∃ out, render ⟨.standard, .empty⟩ (.below .empty [.known .document])
          (.mk (.known .literal) shownFence []) = .ok out ∧
        readCode out = some (shownFence.lines, []) := by
  have hread : readCode "```\nRun:\n```sh\nls\n```\n```" =
      some (["Run:".toList, "```sh".toList, "ls".toList], ["```".toList]) := by decide +kernel
  refine ⟨.literal, by decide, by decide +kernel, hread, ?_⟩
  rintro ⟨out, hout, hwhole⟩
  have hrun : render ⟨.standard, .empty⟩ (.below .empty [.known .document])
      (.mk (.known .literal) shownFence []) = .ok "```\nRun:\n```sh\nls\n```\n```".toList := by
    decide +kernel
  obtain rfl := Except.ok.inj (hout.symm.trans hrun)
  exact absurd (hread.symm.trans hwhole) (by decide)

end Render

end Treedown

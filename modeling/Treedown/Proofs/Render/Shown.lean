import Mathlib.Data.List.Basic
import Treedown.Proofs.Render.Flattening
/-!
# Rendering — blocks that come to nothing

A block may come to an empty text. Every rule deals with such blocks in its
own way: joins filter them out, an admonition does so before it joins,
paragraphs put texts one behind the other, and an item goes on to its next
block. `shown` is what is left of a row of blocks without them, and these
rules look at no more than that (`map_texts_congr`, `item_congr`). Rows with
the same blocks (`SameBlocks`) also agree on being empty and on how they end,
so that a document, whose blocks may be those of its first section, comes to
the same for both (`document_congr`).
-/

namespace Treedown

namespace Render

open Markup

variable {xs ys xs' ys' front back : List Rendered} {x y : Rendered}

/-! ## What is shown -/

/-- Whether a node comes to an empty text. -/
def comesToNothing (r : Rendered) : Bool :=
  match r.outcome with
  | .ok t => t.isEmpty
  | .error _ => false

/-- **What is shown of nodes side by side**: what kind of node comes to what,
where it does not come to nothing. -/
def shown (nodes : List Rendered) : List (Kind × Outcome) :=
  (nodes.filter (!comesToNothing ·)).map fun r => (r.kind, r.outcome)

theorem shown_append (xs ys : List Rendered) : shown (xs ++ ys) = shown xs ++ shown ys := by
  rw [shown, List.filter_append, List.map_append, ← shown, ← shown]

theorem shown_cons_of_comesToNothing (h : comesToNothing x = true) (xs : List Rendered) :
    shown (x :: xs) = shown xs := by
  rw [shown, List.filter_cons_of_neg (by simpa using h), ← shown]

theorem shown_cons_of_not (h : comesToNothing x = false) (xs : List Rendered) :
    shown (x :: xs) = (x.kind, x.outcome) :: shown xs := by
  rw [shown, List.filter_cons_of_pos (by simpa using h), List.map_cons, ← shown]

/-- The texts that are not empty are those of the nodes that are shown. -/
theorem map_filter_texts (nodes : List Rendered) :
    (Rendered.texts nodes).map (·.filter (!·.isEmpty)) = (shown nodes).mapM Prod.snd := by
  induction nodes with
  | nil => rfl
  | cons r rest ih =>
    rw [Rendered.texts, List.mapM_cons, ← Rendered.texts]
    cases hr : r.outcome with
    | error m =>
      rw [shown_cons_of_not (by rw [comesToNothing, hr]), List.mapM_cons, hr]
      rfl
    | ok t =>
      cases t with
      | nil =>
        rw [shown_cons_of_comesToNothing (by rw [comesToNothing, hr]; rfl), ← ih]
        cases Rendered.texts rest <;> rfl
      | cons a t =>
        rw [shown_cons_of_not (by rw [comesToNothing, hr]; rfl), List.mapM_cons, hr, ← ih]
        cases Rendered.texts rest <;> rfl

/-- **A rule that passes over empty texts** looks at what is shown alone. -/
theorem map_texts_congr {α : Type} (g : List Text → α)
    (hg : ∀ ts, g (ts.filter (!·.isEmpty)) = g ts) (h : shown xs = shown ys) :
    (Rendered.texts xs).map g = (Rendered.texts ys).map g := by
  have hkept (nodes : List Rendered) :
      (Rendered.texts nodes).map g = ((shown nodes).mapM Prod.snd).map g := by
    rw [← map_filter_texts, map_map_eq]
    exact congrArg (Except.map · _) (funext fun ts => (hg ts).symm)
  rw [hkept, hkept, h]

/-- What a node adds below the text of an item. -/
def hungBlock (n : Nat) (block : Kind × Outcome) : Outcome :=
  block.2.map (itemBlock n block.1)

/-- The blocks below the text of an item are those of the nodes that are
shown. -/
theorem map_itemBlock_texts (n : Nat) (nodes : List Rendered) :
    (Rendered.texts nodes).map (fun ts =>
        (List.zipWith (itemBlock n) (nodes.map Rendered.kind) ts).flatten) =
      ((shown nodes).mapM (hungBlock n)).map List.flatten := by
  induction nodes with
  | nil => rfl
  | cons r rest ih =>
    rw [Rendered.texts, List.mapM_cons, ← Rendered.texts]
    cases hr : r.outcome with
    | error m =>
      rw [shown_cons_of_not (by rw [comesToNothing, hr]), List.mapM_cons, hr]
      rfl
    | ok t =>
      have hleft : (do let t ← Except.ok t; let ts ← Rendered.texts rest; return t :: ts).map
            (fun ts => (List.zipWith (itemBlock n) ((r :: rest).map Rendered.kind) ts).flatten) =
          ((Rendered.texts rest).map fun ts => (List.zipWith (itemBlock n)
            (rest.map Rendered.kind) ts).flatten).map (itemBlock n r.kind t ++ ·) := by
        cases Rendered.texts rest <;> rfl
      refine hleft.trans ?_
      rw [ih]
      cases t with
      | nil =>
        rw [shown_cons_of_comesToNothing (by rw [comesToNothing, hr]; rfl), map_map_eq]
        rfl
      | cons a t =>
        rw [shown_cons_of_not (by rw [comesToNothing, hr]; rfl), List.mapM_cons, hr]
        cases (shown rest).mapM (hungBlock n) <;> rfl

/-! ## Rules that look at no more -/

theorem sectionBlock_congr (o : Options) (c : Context) (f : Fields) (h : shown xs = shown ys) :
    sectionBlock o c f xs = sectionBlock o c f ys :=
  map_texts_congr (fun ts => joinBlocks (sectionHeading o c f :: ts))
    (fun ts => joinBlocks_filter [sectionHeading o c f] ts) h

theorem preamble_congr (h : shown xs = shown ys) : preamble xs = preamble ys :=
  map_texts_congr joinBlocks (joinBlocks_filter []) h

theorem admonition_congr (f : Fields) (h : shown xs = shown ys) (hempty : xs.isEmpty = ys.isEmpty) :
    admonition f xs = admonition f ys := by
  rw [admonition, admonition, hempty]
  split
  · rfl
  · refine map_texts_congr (fun ts => admonitionStyle (caption f) ++
      '\n' :: quoteLines (Text.unlines (ts.filter (!·.isEmpty)))) (fun ts => ?_) h
    simp only [List.filter_filter, Bool.and_self]

theorem paragraph_congr (f : Fields) (h : shown xs = shown ys) (hempty : xs.isEmpty = ys.isEmpty) :
    paragraph f xs = paragraph f ys := by
  rw [paragraph, paragraph, hempty]
  split
  · rfl
  · split
    · rfl
    · exact map_texts_congr List.flatten (fun ts => List.flatten_filter_not_isEmpty) h

theorem item_congr (marker : Text) (f : Fields) (h : shown xs = shown ys) :
    item marker f xs = item marker f ys := by
  have hshown (nodes : List Rendered) : item marker f nodes =
      (((shown nodes).mapM (hungBlock marker.length)).map List.flatten).map
        (marker ++ Text.hang marker.length (f.text.getD []) ++ ·) := by
    rw [← map_itemBlock_texts, item]
    cases Rendered.texts nodes <;> rfl
  rw [hshown, hshown, h]

/-- One of the items of a list may be another one that is written alike. -/
theorem list_congr (marker : Nat → Text) (kind : Kind) (front back : List Rendered)
    (h : ∀ marker, item marker x.fields x.children = item marker y.fields y.children) :
    list marker kind (front ++ x :: back) = list marker kind (front ++ y :: back) := by
  have hitems (number : Nat) : itemTexts marker number (front ++ x :: back) =
      itemTexts marker number (front ++ y :: back) := by
    induction front generalizing number with
    | nil =>
      cases x
      cases y
      rw [List.nil_append, List.nil_append, itemTexts, itemTexts]
      exact congrArg (· >>= _) (h (marker number))
    | cons r rest ih =>
      cases r
      rw [List.cons_append, List.cons_append, itemTexts, itemTexts, ih]
  rw [list, list, hitems]
  simp

/-! ## The same blocks -/

/-- **Two rows with the same blocks**: the same is shown of both, they are
empty alike and end alike, and no header is among them. -/
structure SameBlocks (xs ys : List Rendered) : Prop where
  shown : shown xs = shown ys
  isEmpty : xs.isEmpty = ys.isEmpty
  last : xs.getLast?.any isLonePicture = ys.getLast?.any isLonePicture
  noHeader : ∀ r ∈ xs ++ ys, r.kind ≠ .known .header

/-- **Two nodes that come to the same.** They also have the same blocks below
them, except that two lists need to have so only where they are opened, that
is in a list themselves. -/
structure Alike (inList : Bool) (x y : Rendered) : Prop where
  kind : x.kind = y.kind
  fields : x.fields = y.fields
  outcome : x.outcome = y.outcome
  below : inList = true ∨ x.kind.isList = false → SameBlocks x.children y.children

namespace SameBlocks

theorem refl (h : ∀ r ∈ xs, r.kind ≠ .known .header) : SameBlocks xs xs :=
  ⟨rfl, rfl, rfl, fun r hr => (List.mem_append.1 hr).elim (h r) (h r)⟩

theorem eq_nil_iff (h : SameBlocks xs ys) : xs = [] ↔ ys = [] := by
  rw [← List.isEmpty_iff, h.isEmpty, List.isEmpty_iff]

/-- **Rows are put together** from rows with the same blocks. -/
theorem append (h : SameBlocks xs ys) (h' : SameBlocks xs' ys') :
    SameBlocks (xs ++ xs') (ys ++ ys') where
  shown := by rw [shown_append, shown_append, h.shown, h'.shown]
  isEmpty := by
    rw [Bool.eq_iff_iff, List.isEmpty_iff, List.isEmpty_iff, List.append_eq_nil_iff,
      List.append_eq_nil_iff, h.eq_nil_iff, h'.eq_nil_iff]
  last := by
    by_cases hnil : xs' = []
    · rw [hnil, h'.eq_nil_iff.1 hnil, List.append_nil, List.append_nil, h.last]
    · rw [List.getLast?_append_of_ne_nil xs hnil,
        List.getLast?_append_of_ne_nil ys (mt h'.eq_nil_iff.2 hnil), h'.last]
  noHeader r hr := by
    have hall := List.forall_mem_append.1 h.noHeader
    have hall' := List.forall_mem_append.1 h'.noHeader
    rcases List.mem_append.1 hr with hr | hr
    · exact (List.mem_append.1 hr).elim (hall.1 r) (hall'.1 r)
    · exact (List.mem_append.1 hr).elim (hall.2 r) (hall'.2 r)

/-- A node may be another one that comes to the same. -/
theorem middle {inList : Bool} (h : Alike inList x y)
    (hfree : ∀ r ∈ front ++ x :: back, r.kind ≠ .known .header) :
    SameBlocks (front ++ x :: back) (front ++ y :: back) := by
  obtain ⟨hfront, hrest⟩ := List.forall_mem_append.1 hfree
  obtain ⟨hx, hback⟩ := List.forall_mem_cons.1 hrest
  have hone : SameBlocks [x] [y] := by
    refine ⟨?_, rfl, ?_, ?_⟩
    · have hnothing : comesToNothing x = comesToNothing y := by
        rw [comesToNothing, comesToNothing, h.outcome]
      cases hy : comesToNothing y with
      | true =>
        rw [shown_cons_of_comesToNothing (hnothing.trans hy), shown_cons_of_comesToNothing hy]
      | false =>
        rw [shown_cons_of_not (hnothing.trans hy), shown_cons_of_not hy, h.kind, h.outcome]
    · rw [List.getLast?_singleton, List.getLast?_singleton, Option.any_some, Option.any_some,
        isLonePicture, isLonePicture, h.kind, h.fields]
    · exact List.forall_mem_cons.2 ⟨hx, List.forall_mem_singleton.2 (h.kind ▸ hx)⟩
  exact (refl hfront).append (hone.append (refl hback))

/-- **A node that comes to nothing** may stand anywhere but at the end. -/
theorem insert (hback : back ≠ []) (hnothing : comesToNothing y = true)
    (hy : y.kind ≠ .known .header) (hfree : ∀ r ∈ front ++ back, r.kind ≠ .known .header) :
    SameBlocks (front ++ back) (front ++ y :: back) := by
  obtain ⟨hfront, hrest⟩ := List.forall_mem_append.1 hfree
  have hbehind : SameBlocks back (y :: back) := {
    shown := (shown_cons_of_comesToNothing hnothing back).symm
    isEmpty := by rw [List.isEmpty_cons, List.isEmpty_eq_false_iff.2 hback]
    last := by rw [List.getLast?_cons_of_ne_nil hback]
    noHeader := List.forall_mem_append.2 ⟨hrest, List.forall_mem_cons.2 ⟨hy, hrest⟩⟩ }
  exact (refl hfront).append hbehind

/-- Nothing is left out where there is no header. -/
theorem withoutHeaders (h : SameBlocks xs ys) :
    SameBlocks (xs.filter (·.kind ≠ .known .header)) (ys.filter (·.kind ≠ .known .header)) := by
  obtain ⟨hx, hy⟩ := List.forall_mem_append.1 h.noHeader
  rwa [List.filter_eq_self.2 fun r hr => decide_eq_true (hx r hr),
    List.filter_eq_self.2 fun r hr => decide_eq_true (hy r hr)]

end SameBlocks

/-! ## Documents -/

/-- **A document comes to the same** from the same blocks, also when the
blocks below its first section stand in the place of that section. -/
theorem document_congr {inList : Bool} (c : Context) (hfirst : Alike inList x y)
    (hall : SameBlocks (x :: xs) (y :: ys)) (hrest : SameBlocks xs ys) :
    document c (x :: xs) = document c (y :: ys) := by
  -- both have the same title over the same blocks
  have htitled : (titled c (x :: xs)).1 = (titled c (y :: ys)).1 ∧
      SameBlocks (titled c (x :: xs)).2 (titled c (y :: ys)).2 := by
    obtain ⟨kind, fields, outcome, children⟩ := x
    obtain ⟨kind', fields', outcome', children'⟩ := y
    obtain rfl : kind = kind' := hfirst.kind
    obtain rfl : fields = fields' := hfirst.fields
    rw [titled, titled]
    cases c.title with
    | some title => exact ⟨rfl, hall⟩
    | none =>
      by_cases hsection : kind = .known .section
      · have hbelow : SameBlocks children children' := hfirst.below (.inr (by rw [hsection]; rfl))
        rw [promote?, promote?, if_pos hsection, if_pos hsection]
        cases Text.unlessBlank fields.title with
        | none => exact ⟨rfl, hall⟩
        | some title => exact ⟨rfl, hbelow.append hrest⟩
      · rw [promote?, promote?, if_neg hsection, if_neg hsection]
        exact ⟨rfl, hall⟩
  have hblocks : SameBlocks (documentBlocks c (x :: xs)) (documentBlocks c (y :: ys)) := by
    rw [documentBlocks, documentBlocks, htitled.1]
    split
    · exact htitled.2.withoutHeaders
    · exact htitled.2
  rw [document_eq, document_eq, htitled.1, hblocks.last]
  exact map_texts_congr _ (fun ts => congrArg (· ++ _) (joinBlocks_filter _ ts)) hblocks.shown

end Render

end Treedown

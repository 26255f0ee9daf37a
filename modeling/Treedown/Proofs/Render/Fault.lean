import Mathlib.Data.List.Forall2
import Treedown.Render.Visit
/-!
# Rendering — the node that a rendering fails on

A rendering that fails names one malformed node, and `fault?` is that
node. Rules fail in two ways only: the shape of their own node is wrong, or
something that they render fails, the first such thing in the order of the
document. `fault?_rule` says this once for all kinds, in terms of the parts
that a rule gives its children. By induction over the tree the fault of a
rendering is then the first defect among the nodes that it visits
(`fault?_renderTree`), whatever the options and the files are.
-/

namespace Treedown

namespace Render

/-- The malformed node that a result names, if it is a failure. -/
def fault? {α : Type} : Except Malformed α → Option Malformed
  | .ok _ => none
  | .error m => some m

section

variable {α β : Type}

@[simp] theorem fault?_ok (a : α) : fault? (.ok a) = none := rfl

@[simp] theorem fault?_error (m : Malformed) : fault? (.error m : Except Malformed α) = some m := rfl

theorem fault?_eq_some_iff {x : Except Malformed α} {m : Malformed} :
    fault? x = some m ↔ x = .error m := by
  cases x <;> simp

/-- Working on a text neither makes a failure nor mends one. -/
@[simp] theorem fault?_map (f : α → β) (x : Except Malformed α) : fault? (x.map f) = fault? x := by
  cases x <;> rfl

@[simp] theorem fault?_bind_pure (f : α → β) (x : Except Malformed α) :
    fault? (x >>= fun a => pure (f a)) = fault? x := by
  cases x <;> rfl

/-- Of two results one after the other the first failure counts. -/
theorem fault?_bind_bind (f : α → β → γ) (x : Except Malformed α) (y : Except Malformed β) :
    fault? (do let a ← x; let b ← y; return f a b) = (fault? x).or (fault? y) := by
  cases x <;> cases y <;> rfl

end

/-! ## Several nodes -/

/-- **Steps that may fail** come to results just if each of them does. -/
theorem mapM_eq_ok_iff {α β : Type} {f : α → Except Malformed β} {xs : List α} {ys : List β} :
    xs.mapM f = .ok ys ↔ List.Forall₂ (fun x y => f x = .ok y) xs ys := by
  induction xs generalizing ys with
  | nil =>
    rw [List.forall₂_nil_left_iff]
    exact ⟨fun h => (Except.ok.inj h).symm, fun h => h ▸ rfl⟩
  | cons x rest ih =>
    rw [List.mapM_cons, List.forall₂_cons_left_iff]
    cases hx : f x with
    | error m => exact iff_of_false (fun h => nomatch h) fun ⟨_, _, h, _⟩ => nomatch h
    | ok y =>
      cases hrest : rest.mapM f with
      | error m =>
        refine iff_of_false (fun h => nomatch h) fun ⟨_, ys, _, h, _⟩ => ?_
        exact nomatch hrest.symm.trans (ih.2 h)
      | ok ys =>
        constructor
        · intro h
          exact ⟨y, ys, rfl, ih.1 hrest, (Except.ok.inj h).symm⟩
        · rintro ⟨_, _, ⟨⟩, h, rfl⟩
          rw [Except.ok.inj (hrest.symm.trans (ih.2 h))]
          rfl

/-- **The fault of several nodes is that of the first one that fails.** -/
theorem fault?_texts (nodes : List Rendered) :
    fault? (Rendered.texts nodes) = nodes.findSome? fun r => fault? r.outcome := by
  induction nodes with
  | nil => rfl
  | cons r rest ih =>
    rw [Rendered.texts, List.mapM_cons, fault?_bind_bind, List.findSome?_cons, ← Rendered.texts, ih]
    cases fault? r.outcome <;> rfl

theorem fault?_texts_append (xs ys : List Rendered) :
    fault? (Rendered.texts (xs ++ ys)) =
      (fault? (Rendered.texts xs)).or (fault? (Rendered.texts ys)) := by
  rw [fault?_texts, fault?_texts, fault?_texts, List.findSome?_append]

/-- The items of a list are opened one after the other. -/
theorem fault?_itemTexts (marker : Nat → Text) (number : Nat) (items : List Rendered) :
    fault? (itemTexts marker number items) =
      items.findSome? fun r => fault? (Rendered.texts r.children) := by
  induction items generalizing number with
  | nil => rfl
  | cons r rest ih =>
    match r with
    | .mk kind fields outcome children =>
      rw [itemTexts, fault?_bind_bind, List.findSome?_cons, ih, item, fault?_bind_pure]
      simp only [Rendered.children]
      cases fault? (Rendered.texts children) <;> rfl

/-! ## The parts of the children -/

mutual

/-- The fault that a node brings into the rendering of what is above it,
given its part there. -/
def partFault (s : Setting) (c : Context) (part : Part) : Node → Option Malformed
  | .mk kind fields children =>
    match part with
    | .rendered => fault? (render s c (.mk kind fields children))
    | .opened headers => partFaults s (c.within kind) (children.map (blockPart headers)) children
    | .omitted => none

/-- The first fault of nodes side by side, given their parts. -/
def partFaults (s : Setting) (c : Context) : List Part → List Node → Option Malformed
  | part :: parts, node :: rest => (partFault s c part node).or (partFaults s c parts rest)
  | _, _ => none

end

section

variable {s : Setting} {c : Context}

theorem partFault_rendered (node : Node) : partFault s c .rendered node = fault? (render s c node) := by
  cases node
  rw [partFault]

theorem partFault_omitted (node : Node) : partFault s c .omitted node = none := by
  cases node
  rw [partFault]

theorem kind_annotate (node : Node) : (annotate s c node).kind = node.kind := by
  cases node
  rfl

theorem children_annotate (node : Node) :
    (annotate s c node).children = annotateAll s (c.within node.kind) node.children := by
  cases node
  rfl

theorem annotateAll_eq_map (nodes : List Node) :
    annotateAll s c nodes = nodes.map (annotate s c) := by
  induction nodes with
  | nil => rfl
  | cons node rest ih => rw [annotateAll, ih, List.map_cons]

/-- The texts of nodes are what they are rendered to, one after the other. -/
theorem texts_annotateAll (nodes : List Node) :
    Rendered.texts (annotateAll s c nodes) = nodes.mapM (render s c) := by
  rw [annotateAll_eq_map, Rendered.texts, List.mapM_map]
  rfl

theorem map_kind_annotateAll (nodes : List Node) :
    (annotateAll s c nodes).map Rendered.kind = nodes.map Node.kind := by
  rw [annotateAll_eq_map, List.map_map]
  exact List.map_congr_left fun node _ => kind_annotate node

/-- Children that are left out bring no fault. -/
theorem partFaults_omitted (nodes : List Node) :
    partFaults s c (nodes.map fun _ => .omitted) nodes = none := by
  induction nodes with
  | nil => rfl
  | cons node rest ih => rw [List.map_cons, partFaults, partFault_omitted, ih, Option.or_none]

theorem fault?_texts_cons (node : Node) (rest : List Rendered) :
    fault? (Rendered.texts (annotate s c node :: rest)) =
      (fault? (render s c node)).or (fault? (Rendered.texts rest)) := by
  rw [fault?_texts, List.findSome?_cons, ← fault?_texts, render]
  cases fault? (annotate s c node).outcome <;> rfl

/-- Children that are rendered bring the fault of their texts. -/
theorem partFaults_rendered (nodes : List Node) :
    partFaults s c (nodes.map fun _ => .rendered) nodes =
      fault? (Rendered.texts (annotateAll s c nodes)) := by
  induction nodes with
  | nil => rfl
  | cons node rest ih =>
    rw [List.map_cons, partFaults, ih, annotateAll, fault?_texts_cons, partFault_rendered]

/-- So do blocks of which the headers are left out, where those are not
among the texts. -/
theorem partFaults_blockPart (headers : Bool) (nodes : List Node) :
    partFaults s c (nodes.map (blockPart headers)) nodes =
      fault? (Rendered.texts ((annotateAll s c nodes).filter
        fun r => headers || r.kind ≠ .known .header)) := by
  induction nodes with
  | nil => rfl
  | cons node rest ih =>
    rw [List.map_cons, partFaults, ih, annotateAll, List.filter_cons, kind_annotate]
    by_cases h : headers = false ∧ node.kind = .known .header
    · rw [blockPart, if_pos (by simp [h]), partFault_omitted, Option.none_or, if_neg (by simp [h])]
    · rw [blockPart, if_neg (by simpa using h), if_pos (by grind), partFault_rendered,
        fault?_texts_cons]

theorem filter_headers_true (nodes : List Rendered) :
    nodes.filter (fun r => true || r.kind ≠ .known .header) = nodes := by
  simp

/-- An opened node brings the fault of its children. -/
theorem partFault_opened (headers : Bool) (node : Node) :
    partFault s c (.opened headers) node =
      fault? (Rendered.texts ((annotate s c node).children.filter
        fun r => headers || r.kind ≠ .known .header)) := by
  cases node
  rw [partFault, partFaults_blockPart, children_annotate]
  rfl

/-- Items that are opened bring the fault of their texts. -/
theorem partFaults_opened (marker : Nat → Text) (number : Nat) (nodes : List Node) :
    partFaults s c (nodes.map fun _ => .opened true) nodes =
      fault? (itemTexts marker number (annotateAll s c nodes)) := by
  rw [fault?_itemTexts]
  induction nodes with
  | nil => rfl
  | cons node rest ih =>
    rw [List.map_cons, partFaults, ih, annotateAll, List.findSome?_cons, partFault_opened,
      filter_headers_true]
    cases fault? (Rendered.texts (annotate s c node).children) <;> rfl

end

/-! ## Rules -/

section

variable (s : Setting) (c : Context) (kind : Kind) (f : Fields) (children : List Node)

/-- What is wrong with the shape of a node by itself. -/
def ownDefect? : Option Malformed :=
  Visit.defect? ⟨0, kind, f, !children.isEmpty⟩

theorem isEmpty_annotateAll : (annotateAll s c children).isEmpty = children.isEmpty := by
  cases children <;> rfl

theorem fault?_list (marker : Nat → Text) :
    fault? (list marker kind (annotateAll s c children)) =
      (if children.isEmpty then some ⟨kind, .noItems⟩ else none).or
        (partFaults s c (children.map fun _ => .opened true) children) := by
  rw [list, isEmpty_annotateAll, partFaults_opened marker 1]
  split
  · rfl
  · simp

theorem fault?_paragraph :
    fault? (paragraph f (annotateAll s c children)) =
      partFaults s c
        (children.map fun _ => if (ownText? f.lines).isSome then .omitted else .rendered)
        children := by
  unfold paragraph
  cases h : ownText? f.lines with
  | some t => exact (partFaults_omitted children).symm
  | none =>
    rw [isEmpty_annotateAll]
    cases children with
    | nil => rfl
    | cons node rest => exact (fault?_map _ _).trans (partFaults_rendered _).symm

theorem fault?_admonition :
    fault? (admonition f (annotateAll s c children)) =
      partFaults s c (children.map fun _ => .rendered) children := by
  unfold admonition
  rw [isEmpty_annotateAll, partFaults_rendered]
  cases children with
  | nil => rfl
  | cons node rest => exact fault?_bind_pure _ _

theorem fault?_table :
    fault? (table s kind f) =
      if f.cells.columnCount = 0 then some ⟨kind, .noColumns⟩ else none := by
  unfold table
  split
  · rfl
  · split <;> rfl

/-- The blocks that a document renders: those under its title, without the
headers if there is one. -/
def documentBlocks (c : Context) (children : List Rendered) : List Rendered :=
  if (titled c children).1.isSome then
    (titled c children).2.filter (·.kind ≠ .known .header)
  else (titled c children).2

theorem fault?_document_eq_texts (nodes : List Rendered) :
    fault? (document c nodes) = fault? (Rendered.texts (documentBlocks c nodes)) :=
  fault?_bind_pure _ _

/-- Without a title of its own a document takes that of a leading section,
and opens it. -/
theorem documentBlocks_of_title_eq_none (h : c.title = none) (first : Node) (rest : List Node) :
    documentBlocks c (annotateAll s (c.within kind) (first :: rest)) =
      if isTitledSection first then
        ((annotate s (c.within kind) first).children ++
          annotateAll s (c.within kind) rest).filter (·.kind ≠ .known .header)
      else annotateAll s (c.within kind) (first :: rest) := by
  cases first with
  | mk k fields nodes =>
    simp only [documentBlocks, titled, h, annotateAll, annotate, promote?, isTitledSection,
      Node.kind, Node.fields, Rendered.children]
    by_cases hk : k = .known .section
    · rcases Option.eq_none_or_eq_some (Text.unlessBlank fields.title) with ht | ⟨title, ht⟩
      · simp [hk, ht]
      · simp [hk, ht]
    · simp [hk]

theorem fault?_document :
    fault? (document c (annotateAll s (c.within kind) children)) =
      partFaults s (c.within kind) (documentParts c children) children := by
  rw [fault?_document_eq_texts]
  cases ht : c.title with
  | some title =>
    simp only [documentBlocks, titled, documentParts, ht, Option.isSome_some, if_true]
    exact (partFaults_blockPart false children).symm
  | none =>
    cases children with
    | nil => simp [documentBlocks, titled, documentParts, ht, annotateAll, promote?, partFaults,
        fault?_texts]
    | cons first rest =>
      rw [documentBlocks_of_title_eq_none s c kind ht]
      simp only [documentParts, ht]
      by_cases hf : isTitledSection first = true
      · rw [if_pos hf, if_pos hf, List.filter_append, fault?_texts_append, partFaults,
          partFault_opened, partFaults_blockPart]
        rfl
      · rw [if_neg hf, if_neg hf, partFaults_blockPart, filter_headers_true]

/-- **The fault of a rule** is what is wrong with its own node, or else the
first fault among the nodes that it renders. -/
theorem fault?_rule :
    fault? (rule s c kind kind f (annotateAll s (c.within kind) children)) =
      (ownDefect? kind f children).or
        (partFaults s (c.within kind) (parts c kind f children) children) := by
  cases kind with
  | other name unknown => exact (partFaults_omitted children).symm
  | known k =>
    cases k with
    | document => exact fault?_document s c _ children
    | «section» => exact (fault?_bind_pure _ _).trans (partFaults_rendered _).symm
    | preamble => exact (fault?_map _ _).trans (partFaults_rendered _).symm
    | listItem => exact (fault?_bind_pure _ _).trans (partFaults_rendered _).symm
    | «example» => exact (fault?_bind_pure _ _).trans (partFaults_rendered _).symm
    | admonition => exact fault?_admonition s _ f children
    | paragraph => exact fault?_paragraph s _ f children
    | olist =>
      refine (fault?_list s _ _ children _).trans ?_
      cases children <;> rfl
    | ulist =>
      refine (fault?_list s _ _ children _).trans ?_
      cases children <;> rfl
    | table =>
      have hparts : partFaults s (c.within (.known .table))
          (parts c (.known .table) f children) children = none := partFaults_omitted children
      rw [hparts, Option.or_none]
      exact fault?_table s _ f
    | _ => exact (partFaults_omitted children).symm

end

/-! ## The tree -/

theorem defect?_eq_ownDefect? (index : Nat) (kind : Kind) (f : Fields) (children : List Node) :
    Visit.defect? ⟨index, kind, f, !children.isEmpty⟩ = ownDefect? kind f children := rfl

mutual

/-- **The fault of a node is the first defect among its visits.** -/
theorem partFault_eq_findSome? (s : Setting) (c : Context) (index : Nat) (part : Part)
    (node : Node) :
    partFault s c part node = (visits c index part node).findSome? Visit.defect? := by
  match node, part with
  | .mk kind fields children, .rendered =>
    rw [partFault_rendered, visits, List.findSome?_cons, defect?_eq_ownDefect?,
      ← partFaults_eq_findSome? s (c.within kind)]
    refine (fault?_rule s c kind fields children).trans ?_
    cases ownDefect? kind fields children <;> rfl
  | .mk kind fields children, .opened headers =>
    rw [partFault, visits, partFaults_eq_findSome? s (c.within kind)]
  | .mk kind fields children, .omitted =>
    rw [partFault, visits]
    rfl

theorem partFaults_eq_findSome? (s : Setting) (c : Context) (index : Nat) (parts : List Part)
    (nodes : List Node) :
    partFaults s c parts nodes = (visitsAll c index parts nodes).findSome? Visit.defect? := by
  match parts, nodes with
  | part :: parts, node :: rest =>
    rw [partFaults, visitsAll, List.findSome?_append, partFault_eq_findSome? s c index,
      partFaults_eq_findSome? s c]
  | [], _ => simp [partFaults, visitsAll]
  | _ :: _, [] => simp [partFaults, visitsAll]

end

/-- **A rendering fails on the first defect among the nodes that it
visits**, and on nothing else. -/
theorem fault?_renderTree (s : Setting) (root : Node) :
    fault? (renderTree s root) = (visitsOf root).findSome? Visit.defect? := by
  rw [renderTree, ← partFault_rendered, partFault_eq_findSome? s _ 0, visitsOf]

end Render

end Treedown

import Mathlib.Data.List.Basic
import Treedown.Proofs.Outline.Placement
/-!
# Outlines — rendering is local

A rendering walks an outline by indices and looks upwards from each of
them, yet the outcome of a node hangs on very little. `Holds.renderAt?`
says that the walk comes to what the rules make of the tree alone, given
the four facts of the context at its top. So two nodes with equal trees,
in whatever documents and at whatever indices, are rendered alike as soon
as their contexts agree (`renderAt?_eq_of_context_eq`).

Of what is given from outside only the options count and the texts of the
files that can be read (`Setting.Agrees`): a file that cannot be read has
the same effect whatever the cause.
-/

namespace Treedown

/-- Two results with the same value, if any: both come to it, or both
fail. -/
theorem eq_ok_or_eq_error_of_toOption_eq {ε₁ ε₂ α : Type} {x : Except ε₁ α} {y : Except ε₂ α}
    (h : x.toOption = y.toOption) :
    (∃ a, x = .ok a ∧ y = .ok a) ∨ ∃ e₁ e₂, x = .error e₁ ∧ y = .error e₂ := by
  cases x with
  | error e₁ =>
    cases y with
    | error e₂ => exact .inr ⟨e₁, e₂, rfl, rfl⟩
    | ok b => cases h
  | ok a =>
    cases y with
    | error e₂ => cases h
    | ok b =>
      cases h
      exact .inl ⟨a, rfl, rfl⟩

/-! ## Settings that look alike -/

namespace Render

variable {s₁ s₂ : Setting}

/-- **Two settings look alike**: they have the same options, and the same
files can be read and hold the same texts. -/
structure Setting.Agrees (s₁ s₂ : Setting) : Prop where
  options : s₁.options = s₂.options
  readText : ∀ path, (s₁.files.readText path).toOption = (s₂.files.readText path).toOption

end Render

namespace Table

variable {files₁ files₂ : Files}

/-- The lines of an origin are read alike. -/
theorem originLines_congr (origin : Origin)
    (h : ∀ path, (files₁.readText path).toOption = (files₂.readText path).toOption) :
    (originLines files₁ origin).toOption = (originLines files₂ origin).toOption := by
  unfold originLines
  split
  · rfl
  · rfl
  · rename_i path _ _
    obtain ⟨t, h₁, h₂⟩ | ⟨e₁, e₂, h₁, h₂⟩ := eq_ok_or_eq_error_of_toOption_eq (h path)
    · rw [h₁, h₂]
    · rw [h₁, h₂]
      rfl

/-- So the same span is found. -/
theorem source_congr (origin : Origin)
    (h : ∀ path, (files₁.readText path).toOption = (files₂.readText path).toOption) :
    (source files₁ origin).toOption = (source files₂ origin).toOption := by
  unfold source
  obtain ⟨lines, h₁, h₂⟩ | ⟨e₁, e₂, h₁, h₂⟩ :=
    eq_ok_or_eq_error_of_toOption_eq (originLines_congr origin h)
  · rw [h₁, h₂]
  · rw [h₁, h₂]
    rfl

/-- And a table is rebuilt alike; only the reason against it may differ. -/
theorem layout_congr (rebuild : Bool) (grid : Grid) (role : Option Text)
    (h : ∀ path, (files₁.readText path).toOption = (files₂.readText path).toOption) :
    (layout rebuild files₁ grid role).toOption = (layout rebuild files₂ grid role).toOption := by
  unfold layout
  split
  · rfl
  split
  · rfl
  split
  · rfl
  rename_i origin _
  obtain ⟨span, h₁, h₂⟩ | ⟨e₁, e₂, h₁, h₂⟩ :=
    eq_ok_or_eq_error_of_toOption_eq (source_congr origin h)
  · rw [h₁, h₂]
  · rw [h₁, h₂]
    rfl

end Table

namespace Render

variable {s₁ s₂ : Setting}

theorem table_congr (hs : s₁.Agrees s₂) (kind : Kind) (f : Fields) :
    table s₁ kind f = table s₂ kind f := by
  have hl : (tableLayout s₁ f).toOption = (tableLayout s₂ f).toOption := by
    rw [tableLayout, tableLayout, hs.options]
    exact Table.layout_congr _ _ _ hs.readText
  unfold table
  obtain ⟨t, h₁, h₂⟩ | ⟨e₁, e₂, h₁, h₂⟩ := eq_ok_or_eq_error_of_toOption_eq hl
  · rw [h₁, h₂]
  · rw [h₁, h₂]

/-- **A rule cannot tell settings apart that look alike.** Only sections
and videos look at the options, and only tables at the files. -/
theorem rule_congr (hs : s₁.Agrees s₂) (c : Context) (as kind : Kind) (f : Fields)
    (children : List Rendered) : rule s₁ c as kind f children = rule s₂ c as kind f children := by
  cases as with
  | other name unknown => rfl
  | known k =>
    cases k with
    | «section» => exact congrArg (sectionBlock · c f children) hs.options
    | video => exact congrArg (fun options => Except.ok (video options f)) hs.options
    | table => exact table_congr hs kind f
    | _ => rfl

mutual

theorem annotate_congr (hs : s₁.Agrees s₂) (c : Context) (node : Node) :
    annotate s₁ c node = annotate s₂ c node := by
  match node with
  | .mk kind fields children =>
    rw [annotate, annotate, annotateAll_congr hs, rule_congr hs]

theorem annotateAll_congr (hs : s₁.Agrees s₂) (c : Context) (nodes : List Node) :
    annotateAll s₁ c nodes = annotateAll s₂ c nodes := by
  match nodes with
  | [] => rfl
  | node :: rest =>
    rw [annotateAll, annotateAll, annotate_congr hs, annotateAll_congr hs]

end

end Render

/-! ## The walk -/

namespace Outline

open Render

variable {o : Outline} {s : Setting}

theorem rendered?_of_at? {i : Nat} {e : Entry} (he : o.at? i = some e) :
    o.rendered? s i = (e.children.mapM (o.rendered? s)).map fun children =>
      .mk e.kind e.fields (rule s (o.context i) e.kind e.kind e.fields children) children := by
  rw [rendered?]
  split
  · rename_i h
    rw [he] at h
    cases h
  · rename_i e' h
    rw [he] at h
    cases h
    rw [List.mapM_subtype (g := o.rendered? s) fun _ _ => rfl, List.unattach_attach]

mutual

/-- **The walk over an outline sees nothing but the tree and the context
at its top.** Below an index every look-up comes to the context that the
nodes in between make of the one above. -/
theorem Holds.rendered? {parent : Option Nat} {i : Nat} {node : Node}
    (h : Holds o parent i node) : o.rendered? s i = some (annotate s (o.context i) node) := by
  match node with
  | .mk kind fields children =>
    rw [rendered?_of_at? h.at?, h.holdsAll.mapM_rendered? h.at?, annotate]
    rfl

theorem HoldsAll.mapM_rendered? {p start : Nat} {e : Entry} {nodes : List Node}
    (h : HoldsAll o p start nodes) (hp : o.at? p = some e) :
    (starts start nodes).mapM (o.rendered? s) =
      some (annotateAll s ((o.context p).within e.kind) nodes) := by
  match nodes with
  | [] => rfl
  | .mk kind fields children :: rest =>
    have hc : o.context start = (o.context p).within e.kind :=
      context_of_parent h.1.at? rfl hp
    rw [starts, List.mapM_cons, h.1.rendered?, h.2.mapM_rendered? hp, annotateAll, hc]
    rfl

end

/-- **A node of an outline is rendered as its tree is**, in the context of
its index. -/
theorem Holds.renderAt? {parent : Option Nat} {i : Nat} {node : Node}
    (h : Holds o parent i node) (as : Option Kind) :
    o.renderAt? s i as = some (renderAs s (o.context i) (as.getD node.kind) node) := by
  match node with
  | .mk kind fields children =>
    rw [Outline.renderAt?, h.at?, Option.bind_some, h.holdsAll.mapM_rendered? h.at?]
    rfl

/-- The context of a root is what its own fields say of the document. -/
theorem context_zero (root : Node) : (ofTree root).context 0 = .ofRoot root.fields := by
  have h0 : (ofTree root).at? 0 = some ⟨root.kind, root.fields, none, starts 1 root.children⟩ := by
    cases root
    rfl
  have ha : (ofTree root).ancestors 0 = [] := by
    rw [ancestors]
    split
    · rfl
    · rename_i e he
      rw [h0] at he
      cases he
      rfl
  simp [context, parent?, hasAncestor, ha, h0, title?, attribute?, rootFields, Context.ofRoot]

/-- **Rendering a document is rendering its first node.** -/
theorem renderAt?_zero (s : Setting) (root : Node) :
    (ofTree root).renderAt? s 0 none = some (renderTree s root) := by
  rw [(holds_ofTree root).renderAt?, context_zero]
  exact congrArg some (renderAs_kind s _ root)

/-! ## Locality -/

theorem inItem_context_iff {i : Nat} : (o.context i).inItem = true ↔
    (o.parent? i).bind o.kind? = some (.known .listItem) := by
  cases h : o.parent? i <;> simp [context, h]

/-- Equal trees in equal contexts come to equal outcomes. -/
theorem renderAt?_eq_of_context_eq {o₁ o₂ : Outline} {s₁ s₂ : Setting} {i₁ i₂ : Nat}
    {p₁ p₂ : Option Nat} {node : Node} (as : Option Kind) (hs : s₁.Agrees s₂)
    (h₁ : Holds o₁ p₁ i₁ node) (h₂ : Holds o₂ p₂ i₂ node)
    (hc : o₁.context i₁ = o₂.context i₂) : o₁.renderAt? s₁ i₁ as = o₂.renderAt? s₂ i₂ as := by
  rw [h₁.renderAt?, h₂.renderAt?, hc, renderAs, renderAs, annotateAll_congr hs, rule_congr hs]

theorem rootFields_ofTree (root : Node) : (ofTree root).rootFields = root.fields := by
  cases root
  rfl

/-- **Rendering is local.** Two nodes with equal trees are rendered alike,
with the same text or the same malformed node, if they agree on whether
their parent is a list item, on whether an example stands above them, and
on the title and the `idprefix` of their documents. -/
theorem renderAt?_local {root₁ root₂ : Node} {s₁ s₂ : Setting} {i₁ i₂ : Nat} (as : Option Kind)
    (hs : s₁.Agrees s₂) (h₁ : i₁ < (ofTree root₁).size) (h₂ : i₂ < (ofTree root₂).size)
    (hsub : (ofTree root₁).tree? i₁ = (ofTree root₂).tree? i₂)
    (hitem : ((ofTree root₁).parent? i₁).bind (ofTree root₁).kind? = some (.known .listItem) ↔
      ((ofTree root₂).parent? i₂).bind (ofTree root₂).kind? = some (.known .listItem))
    (hexample : (ofTree root₁).hasAncestor i₁ (.known .example) =
      (ofTree root₂).hasAncestor i₂ (.known .example))
    (htitle : root₁.fields.title = root₂.fields.title)
    (hids : root₁.fields.attribute? "idprefix" = root₂.fields.attribute? "idprefix") :
    ∃ outcome, (ofTree root₁).renderAt? s₁ i₁ as = some outcome ∧
      (ofTree root₂).renderAt? s₂ i₂ as = some outcome := by
  obtain ⟨p₁, node, hn₁⟩ := exists_holds h₁
  obtain ⟨p₂, node', hn₂⟩ := exists_holds h₂
  have hnode : node = node' := by
    rw [hn₁.tree?, hn₂.tree?] at hsub
    exact Option.some.inj hsub
  subst hnode
  -- a context is made of what the two nodes agree on
  have hc : (ofTree root₁).context i₁ = (ofTree root₂).context i₂ := by
    have hin : ((ofTree root₁).context i₁).inItem = ((ofTree root₂).context i₂).inItem := by
      rw [Bool.eq_iff_iff, inItem_context_iff, inItem_context_iff, hitem]
    simp only [context, title?, attribute?, rootFields_ofTree] at hin ⊢
    rw [hin, hexample, htitle, hids]
  refine ⟨_, hn₁.renderAt? as, ?_⟩
  rw [← hn₁.renderAt? as]
  exact (renderAt?_eq_of_context_eq as hs hn₁ hn₂ hc).symm

/-! A list that stands in two documents, at different depths, behind
different nodes and under different ancestors. -/

/-- A list of the second level. -/
def innerList : Node :=
  ((Node.ofKind (.known .ulist)).withLevel 2).addChildren
    [(Node.ofKind (.known .listItem)).withText "x"]

/-- The list inside another one in an example. -/
def listInList : Node :=
  (((Node.ofKind (.known .document)).withTitle "T").setAttribute "idprefix" "s-").addChildren
    [(Node.ofKind (.known .example)).addChildren
      [(Node.ofKind (.known .olist)).addChildren
        [(Node.ofKind (.known .listItem)).addChildren [innerList]]]]

/-- The list inside an item that is in no list. -/
def listInItem : Node :=
  ((((Node.ofKind (.known .document)).withTitle "T").setAttribute "toc" "left").setAttribute
    "idprefix" "s-").addChildren
    [Node.ofKind (.known .paragraph),
      (Node.ofKind (.known .example)).addChildren
        [(Node.ofKind (.known .listItem)).addChildren [Node.ofKind (.known .text), innerList]]]

/-- The list is rendered alike in both. -/
theorem renderAt?_local_innerList :
    (ofTree listInList).tree? 4 = (ofTree listInItem).tree? 5 ∧
      ∃ outcome, (ofTree listInList).renderAt? ⟨.standard, .empty⟩ 4 none = some outcome ∧
        (ofTree listInItem).renderAt? ⟨.standard, .empty⟩ 5 none = some outcome := by
  have hsub : (ofTree listInList).tree? 4 = (ofTree listInItem).tree? 5 := by
    rw [(holds_ofTree listInList).holdsAll.1.holdsAll.1.holdsAll.1.holdsAll.1.tree?]
    exact ((holds_ofTree listInItem).holdsAll.2.1.holdsAll.1.holdsAll.2.1.tree?).symm
  refine ⟨hsub, renderAt?_local none ⟨rfl, fun _ => rfl⟩ (by decide) (by decide) hsub ?_ ?_ rfl
    (by decide)⟩
  · exact iff_of_true (by decide) (by decide)
  · cbv

end Outline

end Treedown

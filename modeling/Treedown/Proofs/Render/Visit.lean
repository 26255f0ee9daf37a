import Treedown.Proofs.Markup.Picture
import Treedown.Proofs.Outline.Locality
import Treedown.Render.Visit
/-!
# Rendering — which nodes are visited

`Visited o i` says in terms of the outline that a rendering comes to the
node at `i`: it is the least set that contains the root and is closed under
`Renders`, one clause for each way in which the rule of a node renders
another node. The row of visits, which is computed from the top of the tree
down, is this set in the order of the document: each visit is to such a
node (`Holds.visited_of_mem`), each such node has its visit
(`Visited.covers`), and indices grow along the row (`pairwise_visits`).
-/

namespace Treedown

namespace Render

open Markup

/-- **The lines of a paragraph say it all**: they are one include marker, or
they hold an image macro. -/
def SayItAll (lines : List Text) : Prop :=
  (∃ line, lines = [line] ∧ Include.isMarker line.trim = true) ∨ HoldsMacro (Text.unlines lines)

theorem marker?_isSome_iff {lines : List Text} : (marker? lines).isSome = true ↔
    ∃ line, lines = [line] ∧ Include.isMarker line.trim = true := by
  unfold marker?
  split
  · split <;> simp_all
  · simp_all

theorem ownText?_isSome_iff {lines : List Text} :
    (ownText? lines).isSome = true ↔ SayItAll lines := by
  rw [ownText?, Option.isSome_or, Bool.or_eq_true, marker?_isSome_iff, replaceMacros_isSome_iff,
    SayItAll]

end Render

theorem Kind.isList_iff {kind : Kind} :
    kind.isList = true ↔ kind = .known .olist ∨ kind = .known .ulist := by
  unfold isList
  split <;> simp_all

namespace Outline

open Render

variable {o : Outline} {root : Node}

/-! ## The nodes that a rendering comes to -/

/-- A node opens with a section that has a title: the index of the section,
and its entry. -/
def OpensWith (o : Outline) (e : Entry) (f : Nat) (first : Entry) : Prop :=
  e.children.head? = some f ∧ o.at? f = some first ∧ first.kind = .known .section ∧
    (Text.unlessBlank first.fields.title).isSome = true

/-- The kinds whose children are all rendered. -/
def containers : List Kind :=
  [.known .preamble, .known .section, .known .example, .known .admonition, .known .listItem]

/-- **What the rule of a node renders.** -/
inductive Renders (o : Outline) (i : Nat) : Nat → Prop
  /-- All blocks of a node that contains blocks. -/
  | block {c : Nat} {e : Entry} (he : o.at? i = some e) (hk : e.kind ∈ containers)
      (hc : c ∈ e.children) : Renders o i c
  /-- The blocks of the items of a list; the items themselves are opened. -/
  | itemBlock {c j : Nat} {e item : Entry} (he : o.at? i = some e) (hk : e.kind.isList = true)
      (hj : j ∈ e.children) (hitem : o.at? j = some item) (hc : c ∈ item.children) : Renders o i c
  /-- The children of a paragraph, unless its lines say it all. -/
  | inline {c : Nat} {e : Entry} (he : o.at? i = some e) (hk : e.kind = .known .paragraph)
      (hlines : ¬ SayItAll e.fields.lines) (hc : c ∈ e.children) : Renders o i c
  /-- The blocks under the title of the document, but no header. -/
  | titled {c : Nat} {e : Entry} (he : o.at? i = some e) (hk : e.kind = .known .document)
      (htitle : o.title?.isSome = true) (hc : c ∈ e.children)
      (hheader : o.kind? c ≠ some (.known .header)) : Renders o i c
  /-- Where a section gives the document its title, the blocks of the
  section and those behind it, but no header. -/
  | promoted {c f : Nat} {e first : Entry} (he : o.at? i = some e)
      (hk : e.kind = .known .document) (htitle : o.title? = none)
      (hfirst : o.OpensWith e f first) (hc : c ∈ first.children ++ e.children.tail)
      (hheader : o.kind? c ≠ some (.known .header)) : Renders o i c
  /-- All blocks of a document without any title. -/
  | untitled {c : Nat} {e : Entry} (he : o.at? i = some e) (hk : e.kind = .known .document)
      (htitle : o.title? = none) (hfirst : ∀ f first, ¬ o.OpensWith e f first)
      (hc : c ∈ e.children) : Renders o i c

/-- **The nodes that a rendering visits**: the root, and what the rule of a
visited node renders. -/
inductive Visited (o : Outline) : Nat → Prop
  | root : Visited o 0
  | step {i c : Nat} (hi : Visited o i) (hc : o.Renders i c) : Visited o c

/-! ## The row of visits is in order -/

mutual

theorem index_of_mem_visits (ctx : Context) (i : Nat) (part : Part) (node : Node) {v : Visit}
    (hv : v ∈ visits ctx i part node) : i ≤ v.index ∧ v.index < i + node.size := by
  match node, part with
  | .mk kind fields children, .rendered =>
    rw [visits] at hv
    rw [Node.size]
    rcases List.mem_cons.1 hv with rfl | hv
    · exact ⟨le_rfl, by simp only; omega⟩
    · have := index_of_mem_visitsAll _ _ _ children hv
      omega
  | .mk kind fields children, .opened headers =>
    rw [visits] at hv
    rw [Node.size]
    have := index_of_mem_visitsAll _ _ _ children hv
    omega
  | .mk kind fields children, .omitted =>
    rw [visits] at hv
    cases hv

theorem index_of_mem_visitsAll (ctx : Context) (i : Nat) (parts : List Part) (nodes : List Node)
    {v : Visit} (hv : v ∈ visitsAll ctx i parts nodes) :
    i ≤ v.index ∧ v.index < i + Node.sizeAll nodes := by
  match parts, nodes with
  | part :: parts, node :: rest =>
    rw [visitsAll] at hv
    rw [Node.sizeAll]
    rcases List.mem_append.1 hv with hv | hv
    · have := index_of_mem_visits ctx i part node hv
      omega
    · have := index_of_mem_visitsAll ctx _ parts rest hv
      omega
  | [], _ => simp [visitsAll] at hv
  | _ :: _, [] => simp [visitsAll] at hv

end

mutual

/-- **Nodes are visited in the order of the document**, each at most
once. -/
theorem pairwise_visits (ctx : Context) (i : Nat) (part : Part) (node : Node) :
    (visits ctx i part node).Pairwise (·.index < ·.index) := by
  match node, part with
  | .mk kind fields children, .rendered =>
    rw [visits, List.pairwise_cons]
    refine ⟨fun v hv => ?_, pairwise_visitsAll _ _ _ children⟩
    exact (index_of_mem_visitsAll _ _ _ children hv).1
  | .mk kind fields children, .opened headers =>
    rw [visits]
    exact pairwise_visitsAll _ _ _ children
  | .mk kind fields children, .omitted =>
    rw [visits]
    exact List.Pairwise.nil

theorem pairwise_visitsAll (ctx : Context) (i : Nat) (parts : List Part) (nodes : List Node) :
    (visitsAll ctx i parts nodes).Pairwise (·.index < ·.index) := by
  match parts, nodes with
  | part :: parts, node :: rest =>
    rw [visitsAll, List.pairwise_append]
    refine ⟨pairwise_visits ctx i part node, pairwise_visitsAll ctx _ parts rest,
      fun v hv w hw => ?_⟩
    have := index_of_mem_visits ctx i part node hv
    have := index_of_mem_visitsAll ctx _ parts rest hw
    omega
  | [], _ =>
    rw [visitsAll]
    · exact List.Pairwise.nil
    · simp
  | _ :: _, [] =>
    rw [visitsAll]
    · exact List.Pairwise.nil
    · simp

end

/-! ## Only such nodes are visited -/

/-- What the entry at the index of a visit holds. -/
def Describes (o : Outline) (v : Visit) : Prop :=
  ∃ e, o.at? v.index = some e ∧ e.kind = v.kind ∧ e.fields = v.fields ∧
    v.hasChildren = !e.children.isEmpty

/-- What has to be true of the node at an index for it to have a part: if it
is rendered, it is visited; if it is opened, its children are. -/
def Allowed (o : Outline) (j : Nat) : Part → Prop
  | .rendered => Visited o j
  | .opened headers => ∀ e, o.at? j = some e → ∀ c ∈ e.children,
      headers = true ∨ o.kind? c ≠ some (.known .header) → Visited o c
  | .omitted => True

/-- The same of trees that stand one after the other. -/
def AllowedAll (o : Outline) (start : Nat) : List Part → List Node → Prop
  | part :: parts, node :: rest =>
    Allowed o start part ∧ AllowedAll o (start + node.size) parts rest
  | _, _ => True

theorem Holds.kind? {parent : Option Nat} {i : Nat} {node : Node} (h : Holds o parent i node) :
    o.kind? i = some node.kind := by
  cases node
  rw [Outline.kind?, h.at?]
  rfl

theorem allowed_blockPart {parent : Option Nat} {c : Nat} {node : Node} {headers : Bool}
    (h : Holds o parent c node)
    (hc : headers = true ∨ o.kind? c ≠ some (.known .header) → Visited o c) :
    Allowed o c (blockPart headers node) := by
  rw [blockPart]
  split
  · trivial
  · rename_i hpart
    refine hc ?_
    rw [h.kind?]
    cases headers
    · exact .inr (by simpa using hpart)
    · exact .inl rfl

theorem allowedAll_map {p start : Nat} {nodes : List Node} {f : Node → Part}
    (h : HoldsAll o p start nodes)
    (hf : ∀ c node, c ∈ starts start nodes → Holds o (some p) c node → Allowed o c (f node)) :
    AllowedAll o start (nodes.map f) nodes := by
  induction nodes generalizing start with
  | nil => trivial
  | cons node rest ih =>
    exact ⟨hf start node List.mem_cons_self h.1,
      ih h.2 fun c n hc => hf c n (List.mem_cons_of_mem _ hc)⟩

theorem allowedAll_omitted {start : Nat} (nodes : List Node) :
    AllowedAll o start (nodes.map fun _ => .omitted) nodes := by
  induction nodes generalizing start with
  | nil => trivial
  | cons node rest ih => exact ⟨trivial, ih⟩

/-- Whether a tree opens with a titled section can be seen in its outline. -/
theorem opensWith_iff {parent : Option Nat} {i : Nat} {kind : Kind} {fields : Fields}
    {first : Node} {rest : List Node} (h : Holds o parent i (.mk kind fields (first :: rest))) :
    (∃ f e', o.OpensWith ⟨kind, fields, parent, starts (i + 1) (first :: rest)⟩ f e') ↔
      isTitledSection first = true := by
  match first with
  | .mk k fs nodes =>
    have hat := h.holdsAll.1.at?
    rw [isTitledSection, Bool.and_eq_true, decide_eq_true_iff]
    constructor
    · rintro ⟨f, e', hhead, hf, hk, ht⟩
      rw [starts, List.head?_cons, Option.some.injEq] at hhead
      rw [← hhead, hat, Option.some.injEq] at hf
      subst hf
      exact ⟨hk, ht⟩
    · rintro ⟨hk, ht⟩
      exact ⟨i + 1, _, rfl, hat, hk, ht⟩

/-- The parts of the children of a visited document. -/
theorem allowedAll_documentParts {parent : Option Nat} {i : Nat} {fields : Fields}
    {children : List Node} (hi : Visited o i)
    (h : Holds o parent i (.mk (.known .document) fields children)) :
    AllowedAll o (i + 1) (documentParts (o.context i) children) children := by
  have htitle : (o.context i).title = o.title? := rfl
  rw [documentParts.eq_def, htitle]
  cases ht : o.title? with
  | some title =>
    refine allowedAll_map h.holdsAll fun c node hc hn => allowed_blockPart hn fun hh => ?_
    exact hi.step (.titled h.at? rfl (by rw [ht]; rfl) hc (hh.resolve_left (by simp)))
  | none =>
    cases children with
    | nil => trivial
    | cons first rest =>
      simp only
      by_cases hopen : isTitledSection first = true
      · obtain ⟨f, e', hf⟩ := (opensWith_iff h).2 hopen
        have hhead : i + 1 = f := Option.some.inj hf.1
        subst hhead
        rw [if_pos hopen]
        refine ⟨fun e he c hc hh => ?_,
          allowedAll_map h.holdsAll.2 fun c node hc hn => allowed_blockPart hn fun hh => ?_⟩
        · have heq : e = e' := Option.some.inj (he.symm.trans hf.2.1)
          subst heq
          exact hi.step (.promoted h.at? rfl ht hf (List.mem_append_left _ hc)
            (hh.resolve_left (by simp)))
        · exact hi.step (.promoted h.at? rfl ht hf (List.mem_append_right _ hc)
            (hh.resolve_left (by simp)))
      · rw [if_neg hopen]
        refine allowedAll_map h.holdsAll fun c node hc hn => allowed_blockPart hn fun _ => ?_
        refine hi.step (.untitled h.at? rfl ht (fun f e' hf => ?_) hc)
        exact hopen ((opensWith_iff h).1 ⟨f, e', hf⟩)

/-- **The parts that a rule gives its children are allowed**, if its own node
is visited. -/
theorem allowedAll_parts {parent : Option Nat} {i : Nat} {kind : Kind} {fields : Fields}
    {children : List Node} (hi : Visited o i) (h : Holds o parent i (.mk kind fields children)) :
    AllowedAll o (i + 1) (parts (o.context i) kind fields children) children := by
  -- A block of a container and the blocks of an item: in both cases one clause of `Renders`.
  have hblocks (hk : kind ∈ containers) :
      AllowedAll o (i + 1) (children.map fun _ => .rendered) children :=
    allowedAll_map h.holdsAll fun c _ hc _ => hi.step (.block h.at? hk hc)
  have hitems (hk : kind.isList = true) :
      AllowedAll o (i + 1) (children.map fun _ => .opened true) children :=
    allowedAll_map h.holdsAll fun j _ hj _ item hitem c hc _ =>
      hi.step (.itemBlock h.at? hk hj hitem hc)
  cases kind with
  | other name unknown => exact allowedAll_omitted children
  | known k =>
    cases k with
    | document => exact allowedAll_documentParts hi h
    | preamble => exact hblocks (by simp [containers])
    | «section» => exact hblocks (by simp [containers])
    | listItem => exact hblocks (by simp [containers])
    | admonition => exact hblocks (by simp [containers])
    | «example» => exact hblocks (by simp [containers])
    | olist => exact hitems rfl
    | ulist => exact hitems rfl
    | paragraph =>
      refine allowedAll_map h.holdsAll fun c _ hc _ => ?_
      split
      · trivial
      · rename_i hown
        exact hi.step (.inline h.at? rfl (fun hall => hown (ownText?_isSome_iff.2 hall)) hc)
    | _ => exact allowedAll_omitted children

mutual

/-- **Each visit is to a node that `Visited` holds**, and tells what stands
there. -/
theorem Holds.visited_of_mem {o : Outline} {parent : Option Nat} {j : Nat} {part : Part}
    {node : Node} (h : Holds o parent j node) (ha : Allowed o j part) {v : Visit}
    (hv : v ∈ visits (o.context j) j part node) : Visited o v.index ∧ Describes o v := by
  match node, part with
  | .mk kind fields children, .rendered =>
    rw [visits] at hv
    rcases List.mem_cons.1 hv with rfl | hv
    · refine ⟨ha, _, h.at?, rfl, rfl, ?_⟩
      cases children <;> rfl
    · exact h.holdsAll.visited_of_mem h.at? (allowedAll_parts ha h) hv
  | .mk kind fields children, .opened headers =>
    rw [visits] at hv
    refine h.holdsAll.visited_of_mem h.at? (allowedAll_map h.holdsAll fun c n hc hn => ?_) hv
    exact allowed_blockPart hn (ha _ h.at? c hc)
  | .mk kind fields children, .omitted =>
    rw [visits] at hv
    cases hv

theorem HoldsAll.visited_of_mem {o : Outline} {p start : Nat} {e : Entry} {parts : List Part}
    {nodes : List Node} (h : HoldsAll o p start nodes) (he : o.at? p = some e)
    (ha : AllowedAll o start parts nodes) {v : Visit}
    (hv : v ∈ visitsAll ((o.context p).within e.kind) start parts nodes) :
    Visited o v.index ∧ Describes o v := by
  match parts, nodes with
  | part :: parts, .mk kind fields children :: rest =>
    rw [visitsAll] at hv
    rcases List.mem_append.1 hv with hv | hv
    · rw [← context_of_parent h.1.at? rfl he] at hv
      exact h.1.visited_of_mem ha.1 hv
    · exact h.2.visited_of_mem he ha.2 hv
  | [], _ => simp [visitsAll] at hv
  | _ :: _, [] => simp [visitsAll] at hv

end

theorem visited_of_mem_visitsOf {root : Node} {v : Visit} (hv : v ∈ visitsOf root) :
    Visited (ofTree root) v.index ∧ Describes (ofTree root) v := by
  rw [visitsOf, ← context_zero] at hv
  have ha : Allowed (ofTree root) 0 .rendered := Visited.root
  exact (holds_ofTree root).visited_of_mem ha hv

/-! ## All such nodes are visited -/

/-- A tree that stands at one of the indices of a row is visited with the
row, in the part that it has there. -/
theorem HoldsAll.exists_of_mem_starts {p start c : Nat} {nodes : List Node} (f : Node → Part)
    (ctx : Context) (h : HoldsAll o p start nodes) (hc : c ∈ starts start nodes) :
    ∃ node, Holds o (some p) c node ∧
      ∀ v ∈ visits ctx c (f node) node, v ∈ visitsAll ctx start (nodes.map f) nodes := by
  induction nodes generalizing start with
  | nil => cases hc
  | cons node rest ih =>
    rw [List.map_cons, visitsAll]
    rcases List.mem_cons.1 hc with rfl | hc
    · exact ⟨node, h.1, fun v hv => List.mem_append_left _ hv⟩
    · obtain ⟨sub, hsub, hmem⟩ := ih h.2 hc
      exact ⟨sub, hsub, fun v hv => List.mem_append_right _ (hmem v hv)⟩

/-- The row of visits holds all visits of the tree at an index, in a part. -/
def Covers (o : Outline) (row : List Visit) (i : Nat) (part : Part) : Prop :=
  ∃ parent node, Holds o parent i node ∧ ∀ v ∈ visits (o.context i) i part node, v ∈ row

/-- Where a row of trees is visited, each of them is, in its part. -/
theorem covers_of_starts {p start c : Nat} {e : Entry} {nodes : List Node} {row : List Visit}
    {f : Node → Part} {part : Part} (he : o.at? p = some e) (h : HoldsAll o p start nodes)
    (hrow : ∀ v ∈ visitsAll ((o.context p).within e.kind) start (nodes.map f) nodes, v ∈ row)
    (hc : c ∈ starts start nodes) (hf : ∀ node, o.kind? c = some node.kind → f node = part) :
    Covers o row c part := by
  obtain ⟨node, hn, hmem⟩ := h.exists_of_mem_starts f ((o.context p).within e.kind) hc
  refine ⟨some p, node, hn, fun v hv => hrow v (hmem v ?_)⟩
  match node with
  | .mk kind fields children =>
    rwa [hf _ hn.kind?, ← context_of_parent hn.at? rfl he]

theorem blockPart_eq_rendered {headers : Bool} {node : Node}
    (h : headers = true ∨ node.kind ≠ .known .header) : blockPart headers node = .rendered := by
  rw [blockPart, if_neg]
  rcases h with rfl | h
  · simp
  · simp [h]

/-- The children of a tree that is opened are rendered. -/
theorem Covers.opened {row : List Visit} {j c : Nat} {e : Entry} (headers : Bool)
    (h : Covers o row j (.opened headers)) (he : o.at? j = some e) (hc : c ∈ e.children)
    (hheader : headers = true ∨ o.kind? c ≠ some (.known .header)) : Covers o row c .rendered := by
  obtain ⟨parent, node, hn, hrow⟩ := h
  match node with
  | .mk kind fields children =>
    have heq := Option.some.inj (he.symm.trans hn.at?)
    subst heq
    rw [visits] at hrow
    refine covers_of_starts he hn.holdsAll hrow hc fun node hkind => blockPart_eq_rendered ?_
    exact hheader.imp_right fun hne heq => hne (by rw [hkind, heq])

/-- A row that covers a rendered node holds the visits below it, in the parts
that its rule gives its children. -/
theorem Covers.exists_children {row : List Visit} {i : Nat} {e : Entry}
    (h : Covers o row i .rendered) (he : o.at? i = some e) :
    ∃ parent kind fields children, e = ⟨kind, fields, parent, starts (i + 1) children⟩ ∧
      Holds o parent i (.mk kind fields children) ∧
      ∀ v ∈ visitsAll ((o.context i).within kind) (i + 1)
        (parts (o.context i) kind fields children) children, v ∈ row := by
  obtain ⟨parent, node, hn, hrow⟩ := h
  match node with
  | .mk kind fields children =>
    rw [visits] at hrow
    have heq := Option.some.inj (he.symm.trans hn.at?)
    exact ⟨parent, kind, fields, children, heq, hn, fun v hv => hrow v (List.mem_cons_of_mem _ hv)⟩

/-- Where a section gives the document its title, its blocks and those
behind it are rendered, but no header. -/
theorem Covers.promoted {row : List Visit} {i c f : Nat} {e first : Entry}
    (h : Covers o row i .rendered) (he : o.at? i = some e) (hk : e.kind = .known .document)
    (htitle : o.title? = none) (hfirst : o.OpensWith e f first)
    (hc : c ∈ first.children ++ e.children.tail) (hheader : o.kind? c ≠ some (.known .header)) :
    Covers o row c .rendered := by
  obtain ⟨parent, kind, fields, children, rfl, hn, hbelow⟩ := h.exists_children he
  cases hk
  have hnone : (o.context i).title = none := htitle
  match children with
  | [] => cases hfirst.1
  | opener :: rest =>
    have hopen := (opensWith_iff hn).1 ⟨_, _, hfirst⟩
    have hhead := Option.some.inj hfirst.1
    subst hhead
    simp only [parts, documentParts, hnone, if_pos hopen, visitsAll] at hbelow
    rcases List.mem_append.1 hc with hc | hc
    · -- a block of the section, which is opened in its place
      refine Covers.opened false ⟨some i, opener, hn.holdsAll.1, fun v hv => ?_⟩
        hfirst.2.1 hc (.inr hheader)
      match opener with
      | .mk k fs nodes =>
        rw [context_of_parent hn.holdsAll.1.at? rfl he] at hv
        exact hbelow v (List.mem_append_left _ hv)
    · -- a block behind the section
      refine covers_of_starts he hn.holdsAll.2
        (fun v hv => hbelow v (List.mem_append_right _ hv)) hc
        fun node hkind => blockPart_eq_rendered ?_
      exact .inr fun heq => hheader (by rw [hkind, heq])

/-- **A row that covers a node covers what its rule renders.** -/
theorem Covers.renders {row : List Visit} {i c : Nat} (h : Covers o row i .rendered)
    (hc : o.Renders i c) : Covers o row c .rendered := by
  have hcontext : (o.context i).title = o.title? := rfl
  cases hc with
  | block he hk hmem =>
    obtain ⟨parent, kind, fields, children, rfl, hn, hbelow⟩ := h.exists_children he
    refine covers_of_starts (f := fun _ => .rendered) he hn.holdsAll (fun v hv => hbelow v ?_)
      hmem fun _ _ => rfl
    simp only [containers, List.mem_cons, List.not_mem_nil, or_false] at hk
    rcases hk with rfl | rfl | rfl | rfl | rfl <;> exact hv
  | itemBlock he hk hj hitem hmem =>
    obtain ⟨parent, kind, fields, children, rfl, hn, hbelow⟩ := h.exists_children he
    -- the item is opened, and what an opened node holds is rendered
    refine Covers.opened true ?_ hitem hmem (.inl rfl)
    refine covers_of_starts (f := fun _ => .opened true) he hn.holdsAll
      (fun v hv => hbelow v ?_) hj fun _ _ => rfl
    rcases Kind.isList_iff.1 hk with rfl | rfl <;> exact hv
  | inline he hk hlines hmem =>
    obtain ⟨parent, kind, fields, children, rfl, hn, hbelow⟩ := h.exists_children he
    cases hk
    have hown : ¬ (ownText? fields.lines).isSome = true := fun hown =>
      hlines (ownText?_isSome_iff.1 hown)
    exact covers_of_starts he hn.holdsAll hbelow hmem fun _ _ => if_neg hown
  | titled he hk ht hmem hheader =>
    obtain ⟨parent, kind, fields, children, rfl, hn, hbelow⟩ := h.exists_children he
    cases hk
    obtain ⟨title, ht⟩ := Option.isSome_iff_exists.1 ht
    simp only [parts, documentParts, hcontext, ht] at hbelow
    refine covers_of_starts he hn.holdsAll hbelow hmem fun node hkind => blockPart_eq_rendered ?_
    exact .inr fun heq => hheader (by rw [hkind, heq])
  | promoted he hk ht hfirst hmem hheader => exact h.promoted he hk ht hfirst hmem hheader
  | untitled he hk ht hfirst hmem =>
    obtain ⟨parent, kind, fields, children, rfl, hn, hbelow⟩ := h.exists_children he
    cases hk
    match children with
    | [] => cases hmem
    | first :: rest =>
      have hopen : ¬ isTitledSection first = true := fun hopen => by
        obtain ⟨f, e', hf⟩ := (opensWith_iff hn).2 hopen
        exact hfirst f e' hf
      simp only [parts, documentParts, hcontext, ht, if_neg hopen] at hbelow
      exact covers_of_starts he hn.holdsAll hbelow hmem
        fun _ _ => blockPart_eq_rendered (.inl rfl)

theorem Visited.covers {root : Node} {i : Nat} (h : Visited (ofTree root) i) :
    Covers (ofTree root) (visitsOf root) i .rendered := by
  induction h with
  | root => exact ⟨none, root, holds_ofTree root, fun v hv => by rwa [visitsOf, ← context_zero]⟩
  | step _ hc ih => exact ih.renders hc

/-- **A node is visited in a rendering just if `Visited` holds it.** -/
theorem exists_visit_iff {root : Node} {i : Nat} :
    (∃ v ∈ visitsOf root, v.index = i) ↔ Visited (ofTree root) i := by
  constructor
  · rintro ⟨v, hv, rfl⟩
    exact (visited_of_mem_visitsOf hv).1
  · intro h
    obtain ⟨parent, node, hn, hrow⟩ := h.covers
    match node with
    | .mk kind fields children =>
      rw [visits] at hrow
      exact ⟨_, hrow _ List.mem_cons_self, rfl⟩

end Outline

end Treedown

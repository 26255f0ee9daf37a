import Mathlib.Data.List.Nodup
import Treedown.Proofs.Node.Preorder
import Treedown.Proofs.Outline.Filling
import Treedown.Proofs.Outline.Placement
/-!
# Outlines — the row and the tree

An outline made from a tree is the tree: its indices are the places of the
nodes in the order of the document, what an entry names as its parent and
its children are the nodes directly above and below it, and the way up from
an index passes all the nodes that enclose it and no others. `Mirrors` says
all of this at once. Everything comes from `Holds.of_preorder`, by which the
tree of the `i`-th node stands at the index `i`, and from two walks down the
tree: one finds the child list that an index is in (`Holds.exists_parent`),
the other what stands above it (`Holds.mem_ancestors_iff`).
-/

namespace Treedown

namespace Outline

open Node

variable {o : Outline}

/-! ## Indices of children -/

/-- The `j`-th of several trees begins behind all trees in front of it. -/
theorem getElem?_starts (start : Nat) (nodes : List Node) (j : Nat) :
    (starts start nodes)[j]? =
      if j < nodes.length then some (start + sizeAll (nodes.take j)) else none := by
  induction nodes generalizing start j with
  | nil => rfl
  | cons node rest ih =>
    match j with
    | 0 =>
      rw [starts, List.getElem?_cons_zero, if_pos (by rw [List.length_cons]; omega)]
      rfl
    | j + 1 =>
      rw [starts, List.getElem?_cons_succ, ih, List.length_cons, List.take_succ_cons, sizeAll,
        Nat.add_assoc]
      simp only [Nat.add_lt_add_iff_right]

/-- No two of several trees begin at one index. -/
theorem nodup_starts (start : Nat) (nodes : List Node) : (starts start nodes).Nodup := by
  induction nodes generalizing start with
  | nil => exact List.nodup_nil
  | cons node rest ih =>
    refine List.nodup_cons.2 ⟨fun hmem => ?_, ih _⟩
    have hle := le_of_mem_starts hmem
    have hpos := node.size_pos
    omega

/-- What stands at an index where one of several trees begins. -/
theorem HoldsAll.holds_of_mem_starts {p start c : Nat} {nodes : List Node}
    (h : HoldsAll o p start nodes) (hc : c ∈ starts start nodes) :
    ∃ node, Holds o (some p) c node := by
  induction nodes generalizing start with
  | nil => cases hc
  | cons node rest ih =>
    rcases List.mem_cons.1 hc with rfl | hc
    · exact ⟨node, h.1⟩
    · exact ih h.2 hc

/-! ## What stands at an index -/

mutual

/-- **The tree of the `k`-th node stands at the `k`-th index**, counted from
where the whole tree stands. -/
theorem Holds.of_preorder {parent : Option Nat} {i k : Nat} {node sub : Node}
    (h : Holds o parent i node) (hk : node.preorder[k]? = some sub) : ∃ q, Holds o q (i + k) sub := by
  match node, k with
  | .mk kind fields children, 0 =>
    rw [preorder, List.getElem?_cons_zero, Option.some.injEq] at hk
    subst hk
    exact ⟨parent, h⟩
  | .mk kind fields children, k + 1 =>
    rw [preorder, List.getElem?_cons_succ] at hk
    obtain ⟨q, hq⟩ := h.holdsAll.of_preorderAll hk
    refine ⟨q, ?_⟩
    rwa [show i + (k + 1) = i + 1 + k by omega]

theorem HoldsAll.of_preorderAll {p start k : Nat} {nodes : List Node} {sub : Node}
    (h : HoldsAll o p start nodes) (hk : (preorderAll nodes)[k]? = some sub) :
    ∃ q, Holds o q (start + k) sub := by
  match nodes with
  | [] => simp [preorderAll] at hk
  | node :: rest =>
    rw [preorderAll, List.getElem?_append, length_preorder] at hk
    by_cases hlt : k < node.size
    · rw [if_pos hlt] at hk
      exact h.1.of_preorder hk
    · rw [if_neg hlt] at hk
      obtain ⟨q, hq⟩ := h.2.of_preorderAll hk
      refine ⟨q, ?_⟩
      rwa [show start + k = start + node.size + (k - node.size) by omega]

end

section

variable {root node : Node} {i : Nat} {e : Entry}

/-- **The entry of the `i`-th node.** -/
theorem at?_of_preorder (h : root.preorder[i]? = some node) :
    ∃ parent, Holds (ofTree root) parent i node ∧
      (ofTree root).at? i = some ⟨node.kind, node.fields, parent, starts (i + 1) node.children⟩ := by
  obtain ⟨parent, hn⟩ := (holds_ofTree root).of_preorder h
  rw [Nat.zero_add] at hn
  match node with
  | .mk kind fields children => exact ⟨parent, hn, hn.at?⟩

/-- Every index is the place of a node. -/
theorem exists_preorder (h : i < (ofTree root).size) : ∃ node, root.preorder[i]? = some node := by
  rw [size_ofTree, ← length_preorder] at h
  exact ⟨_, List.getElem?_eq_getElem h⟩

/-- An entry is that of the node at its place. -/
theorem preorder_of_at? (he : (ofTree root).at? i = some e) :
    ∃ node, root.preorder[i]? = some node ∧ Holds (ofTree root) e.parent i node ∧
      e.kind = node.kind ∧ e.fields = node.fields ∧ e.children = starts (i + 1) node.children := by
  obtain ⟨node, hnode⟩ := exists_preorder (lt_size he)
  obtain ⟨parent, hn, hat⟩ := at?_of_preorder hnode
  rw [he, Option.some.injEq] at hat
  subst hat
  exact ⟨node, hnode, hn, rfl, rfl, rfl⟩

theorem at?_eq_none (h : ¬ i < (ofTree root).size) : (ofTree root).at? i = none :=
  Array.getElem?_eq_none (Nat.not_lt.1 h)

/-- Kind and fields of the `i`-th entry are those of the `i`-th node. -/
theorem map_at?_eq (root : Node) (i : Nat) :
    ((ofTree root).at? i).map (fun e => (e.kind, e.fields)) =
      root.preorder[i]?.map fun node => (node.kind, node.fields) := by
  by_cases hi : i < (ofTree root).size
  · obtain ⟨node, hnode⟩ := exists_preorder hi
    obtain ⟨parent, -, hat⟩ := at?_of_preorder hnode
    rw [hat, hnode]
    rfl
  · have hlen : root.preorder.length ≤ i := by
      rw [length_preorder, ← size_ofTree]
      omega
    rw [at?_eq_none hi, List.getElem?_eq_none hlen]
    rfl

/-- The place of the `j`-th child of a node. -/
theorem preorder_child (h : root.preorder[i]? = some node) {j : Nat} {child : Node}
    (hj : node.children[j]? = some child) :
    root.preorder[i + 1 + sizeAll (node.children.take j)]? = some child := by
  obtain ⟨front, back, heq, hlen⟩ := preorder_eq_append h
  have hlt : j < node.children.length := (List.getElem?_eq_some_iff.1 hj).1
  have hplace : (preorderAll node.children)[sizeAll (node.children.take j)]? = some child := by
    rw [getElem?_preorderAll hlt, hj]
  rw [heq, List.append_assoc, List.getElem?_append_right (by omega),
    show i + 1 + sizeAll (node.children.take j) - front.length =
      sizeAll (node.children.take j) + 1 by omega,
    List.getElem?_append_left, preorder_eq_cons, List.getElem?_cons_succ, hplace]
  have := (List.getElem?_eq_some_iff.1 hplace).1
  rw [preorder_eq_cons, List.length_cons]
  omega

end

/-! ## Parents and children -/

mutual

/-- **Every index below the top of a tree is in some child list.** -/
theorem Holds.exists_parent {parent : Option Nat} {i j : Nat} {node : Node}
    (h : Holds o parent i node) (hi : i < j) (hj : j < i + node.size) :
    ∃ p e, o.at? p = some e ∧ j ∈ e.children := by
  match node with
  | .mk kind fields children =>
    rw [Node.size] at hj
    rcases h.holdsAll.mem_starts_or_exists_parent hi (by omega) with hmem | hbelow
    · exact ⟨i, _, h.at?, hmem⟩
    · exact hbelow

theorem HoldsAll.mem_starts_or_exists_parent {p start j : Nat} {nodes : List Node}
    (h : HoldsAll o p start nodes) (hs : start ≤ j) (hj : j < start + sizeAll nodes) :
    j ∈ starts start nodes ∨ ∃ p e, o.at? p = some e ∧ j ∈ e.children := by
  match nodes with
  | [] =>
    rw [sizeAll] at hj
    omega
  | node :: rest =>
    rw [sizeAll] at hj
    rw [starts]
    rcases Nat.eq_or_lt_of_le hs with rfl | hlt
    · exact .inl List.mem_cons_self
    · rcases Nat.lt_or_ge j (start + node.size) with hin | hbehind
      · exact .inr (h.1.exists_parent hlt hin)
      · refine (h.2.mem_starts_or_exists_parent hbehind (by omega)).imp_left ?_
        exact List.mem_cons_of_mem start

end

/-- **A node is the parent of those in its child list**, and of no others. -/
theorem parent?_eq_some_iff {root : Node} {i p : Nat} :
    (ofTree root).parent? i = some p ↔ ∃ e, (ofTree root).at? p = some e ∧ i ∈ e.children := by
  have hparent {q : Nat} {e : Entry} (he : (ofTree root).at? q = some e) (hi : i ∈ e.children) :
      (ofTree root).parent? i = some q := by
    obtain ⟨node, -, hn, -, -, hchildren⟩ := preorder_of_at? he
    rw [hchildren] at hi
    cases node with
    | mk kind fields children =>
      obtain ⟨child, hc⟩ := hn.holdsAll.holds_of_mem_starts hi
      cases child with
      | mk kind' fields' children' => rw [parent?, hc.at?, Option.bind_some]
  constructor
  · intro h
    obtain ⟨e, he, hp⟩ := Option.bind_eq_some_iff.1 h
    have hlt := parent_lt he hp
    have hsize := lt_size he
    rw [size_ofTree] at hsize
    obtain ⟨q, e', he', hi⟩ := (holds_ofTree root).exists_parent (j := i) (by omega) (by omega)
    -- the child list that the index is in is that of its parent
    have hq : q = p := Option.some.inj ((hparent he' hi).symm.trans h)
    exact ⟨e', hq ▸ he', hi⟩
  · rintro ⟨e, he, hi⟩
    exact hparent he hi

/-- Every node but the root is in one child list, once. -/
theorem exists_unique_child_list {root : Node} {i : Nat} (hi : 0 < i) (hlt : i < (ofTree root).size) :
    ∃ p e, (ofTree root).at? p = some e ∧ e.children.count i = 1 ∧
      ∀ q e', (ofTree root).at? q = some e' → i ∈ e'.children → q = p := by
  rw [size_ofTree] at hlt
  obtain ⟨p, e, he, hmem⟩ := (holds_ofTree root).exists_parent hi (by omega)
  refine ⟨p, e, he, ?_, fun q e' he' hmem' => ?_⟩
  · obtain ⟨node, -, -, -, -, hchildren⟩ := preorder_of_at? he
    rw [hchildren] at hmem ⊢
    exact List.count_eq_one_of_mem (nodup_starts _ _) hmem
  · have hp := parent?_eq_some_iff.2 ⟨e, he, hmem⟩
    have hq := parent?_eq_some_iff.2 ⟨e', he', hmem'⟩
    exact Option.some.inj (hq.symm.trans hp)

/-! ## The way up -/

theorem parent?_lt {i p : Nat} (h : o.parent? i = some p) : p < i := by
  obtain ⟨e, he, hp⟩ := Option.bind_eq_some_iff.1 h
  exact parent_lt he hp

theorem ancestors_of_parent? {i p : Nat} (h : o.parent? i = some p) :
    o.ancestors i = p :: o.ancestors p := by
  obtain ⟨e, he, hp⟩ := Option.bind_eq_some_iff.1 h
  exact ancestors_of_parent he hp

theorem ancestors_of_parent?_eq_none {i : Nat} (h : o.parent? i = none) : o.ancestors i = [] := by
  rw [ancestors]
  split
  · rfl
  · rename_i e he
    rw [parent?, he, Option.bind_some] at h
    split
    · rfl
    · rename_i p hp
      rw [h] at hp
      cases hp

/-- **The way up goes from each node to its parent.** -/
theorem isChain_ancestors (o : Outline) (i : Nat) :
    (i :: o.ancestors i).IsChain fun a b => o.parent? a = some b := by
  induction i using Nat.strongRecOn with
  | ind i ih =>
    cases h : o.parent? i with
    | none =>
      rw [ancestors_of_parent?_eq_none h]
      exact List.IsChain.singleton i
    | some p =>
      rw [ancestors_of_parent? h]
      exact List.isChain_cons_cons.2 ⟨h, ih p (parent?_lt h)⟩

/-- **It ends at the root.** -/
theorem getLast?_ancestors {root : Node} {i : Nat} (hi : i < (ofTree root).size) :
    (i :: (ofTree root).ancestors i).getLast? = some 0 := by
  induction i using Nat.strongRecOn with
  | ind i ih =>
    cases h : (ofTree root).parent? i with
    | none =>
      -- any other node is in a child list, and so has a parent
      have hzero : i = 0 := by
        by_contra hne
        obtain ⟨p, e, he, hmem, -⟩ := exists_unique_child_list (Nat.pos_of_ne_zero hne) hi
        have hmem' : i ∈ e.children := List.count_pos_iff.1 (by omega)
        rw [parent?_eq_some_iff.2 ⟨e, he, hmem'⟩] at h
        cases h
      rw [ancestors_of_parent?_eq_none h, hzero]
      rfl
    | some p =>
      have hlt := parent?_lt h
      rw [ancestors_of_parent? h, List.getLast?_cons_cons, ih p hlt (by omega)]

mutual

/-- **What is above an index inside a tree**: what is above the tree, and the
nodes of the tree that enclose the index. -/
theorem Holds.mem_ancestors_iff {parent : Option Nat} {i j a : Nat} {node : Node}
    (h : Holds o parent i node) (hi : i ≤ j) (hj : j < i + node.size) :
    a ∈ o.ancestors j ↔ a ∈ o.ancestors i ∨
      ∃ k sub, a = i + k ∧ node.preorder[k]? = some sub ∧ a < j ∧ j < a + sub.size := by
  match node with
  | .mk kind fields children =>
    rcases Nat.eq_or_lt_of_le hi with rfl | hlt
    · refine (or_iff_left ?_).symm
      rintro ⟨k, sub, rfl, -, hlt, -⟩
      omega
    · rw [Node.size] at hj
      rw [h.holdsAll.mem_ancestors_iff hlt (by omega)]
      constructor
      · rintro ((rfl | habove) | ⟨k, sub, rfl, hk, hlo, hhi⟩)
        · refine .inr ⟨0, _, rfl, rfl, hlt, ?_⟩
          rw [Node.size]
          omega
        · exact .inl habove
        · refine .inr ⟨k + 1, sub, by omega, ?_, hlo, hhi⟩
          rwa [preorder, List.getElem?_cons_succ]
      · rintro (habove | ⟨k, sub, rfl, hk, hlo, hhi⟩)
        · exact .inl (.inr habove)
        · match k with
          | 0 => exact .inl (.inl rfl)
          | k + 1 =>
            rw [preorder, List.getElem?_cons_succ] at hk
            exact .inr ⟨k, sub, by omega, hk, hlo, hhi⟩

theorem HoldsAll.mem_ancestors_iff {p start j a : Nat} {nodes : List Node}
    (h : HoldsAll o p start nodes) (hs : start ≤ j) (hj : j < start + sizeAll nodes) :
    a ∈ o.ancestors j ↔ (a = p ∨ a ∈ o.ancestors p) ∨
      ∃ k sub, a = start + k ∧ (preorderAll nodes)[k]? = some sub ∧ a < j ∧ j < a + sub.size := by
  match nodes with
  | [] =>
    rw [sizeAll] at hj
    omega
  | node :: rest =>
    rw [sizeAll] at hj
    simp only [preorderAll, List.getElem?_append, length_preorder]
    rcases Nat.lt_or_ge j (start + node.size) with hin | hbehind
    · -- the index is in the first tree, so what encloses it is there too
      have habove : o.ancestors start = p :: o.ancestors p := by
        match node with
        | .mk kind fields children => exact ancestors_of_parent h.1.at? rfl
      rw [h.1.mem_ancestors_iff hs hin, habove, List.mem_cons]
      refine or_congr_right (exists_congr fun k => exists_congr fun sub => ?_)
      refine and_congr_right fun hk => ?_
      by_cases hlt : k < node.size
      · rw [if_pos hlt]
      · refine iff_of_false (fun h => ?_) (fun h => ?_)
        · have := h.2.1
          omega
        · have := h.2.1
          omega
    · -- the index is behind the first tree, and nothing there reaches so far
      rw [h.2.mem_ancestors_iff hbehind (by omega)]
      refine or_congr_right ⟨?_, ?_⟩
      · rintro ⟨k, sub, rfl, hk, hlo, hhi⟩
        refine ⟨node.size + k, sub, by omega, ?_, hlo, hhi⟩
        rwa [if_neg (by omega), Nat.add_sub_cancel_left]
      · rintro ⟨k, sub, rfl, hk, hlo, hhi⟩
        by_cases hlt : k < node.size
        · rw [if_pos hlt] at hk
          have := add_size_le_of_preorder hk
          omega
        · rw [if_neg hlt] at hk
          exact ⟨k - node.size, sub, by omega, hk, hlo, hhi⟩

end

/-- **The way up passes what encloses a node**, and nothing else. -/
theorem mem_ancestors_iff {root : Node} {i a : Nat} (hi : i < (ofTree root).size) :
    a ∈ (ofTree root).ancestors i ↔ root.Encloses a i := by
  rw [size_ofTree] at hi
  have hroot : (ofTree root).ancestors 0 = [] := by
    refine ancestors_of_parent?_eq_none ?_
    match root with
    | .mk kind fields children => rfl
  rw [(holds_ofTree root).mem_ancestors_iff (Nat.zero_le i) (by omega), hroot, or_iff_right (by simp)]
  constructor
  · rintro ⟨k, sub, rfl, hk, hlo, hhi⟩
    rw [Nat.zero_add] at hlo hhi ⊢
    exact ⟨sub, hk, hlo, hhi⟩
  · rintro ⟨sub, hk, hlo, hhi⟩
    exact ⟨a, sub, (Nat.zero_add a).symm, hk, hlo, hhi⟩

/-- A node has an ancestor of a kind just if one that encloses it is of the
kind. -/
theorem hasAncestor_iff {root : Node} {i : Nat} {kind : Kind} (hi : i < (ofTree root).size) :
    (ofTree root).hasAncestor i kind = true ↔
      ∃ a node, root.Encloses a i ∧ root.preorder[a]? = some node ∧ node.kind = kind := by
  have hkind (a : Nat) : (ofTree root).kind? a = root.preorder[a]?.map Node.kind := by
    have := congrArg (Option.map Prod.fst) (map_at?_eq root a)
    rwa [Option.map_map, Option.map_map] at this
  simp only [hasAncestor, List.any_eq_true, decide_eq_true_eq, hkind, Option.map_eq_some_iff,
    mem_ancestors_iff hi]
  constructor
  · rintro ⟨a, ha, node, hnode, rfl⟩
    exact ⟨a, node, ha, hnode, rfl⟩
  · rintro ⟨a, node, ha, hnode, rfl⟩
    exact ⟨a, ha, node, hnode, rfl⟩

/-- **Every tree is read back from the place of its top.** -/
theorem tree?_eq_preorder (root : Node) (i : Nat) : (ofTree root).tree? i = root.preorder[i]? := by
  by_cases hi : i < (ofTree root).size
  · obtain ⟨node, hnode⟩ := exists_preorder hi
    obtain ⟨parent, hn, -⟩ := at?_of_preorder hnode
    rw [hn.tree?, hnode]
  · have hlen : root.preorder.length ≤ i := by
      rw [length_preorder, ← size_ofTree]
      omega
    rw [List.getElem?_eq_none hlen]
    cases htree : (ofTree root).tree? i with
    | none => rfl
    | some node => exact absurd (lt_size_of_tree? htree) hi

/-! ## The outline of a tree -/

/-- **An outline is a tree.** -/
structure Mirrors (o : Outline) (root : Node) : Prop where
  /-- A pass over the tree fills the row, entry by entry. -/
  filled : o.entries.toList = fill [] none root
  /-- It has as many nodes as the tree. -/
  size : o.size = root.size ∧ root.preorder.length = root.size
  /-- The `i`-th entry is the `i`-th node. -/
  content : ∀ i, (o.at? i).map (fun e => (e.kind, e.fields)) =
    root.preorder[i]?.map fun node => (node.kind, node.fields)
  /-- Its children are the places of that node's children, in order, each
  behind the trees of those before it. -/
  children : ∀ i e node, o.at? i = some e → root.preorder[i]? = some node →
    e.children.map (root.preorder[·]?) = node.children.map some ∧
      ∀ j c, e.children[j]? = some c → c = i + 1 + sizeAll (node.children.take j)
  /-- A tree takes a contiguous part of the row. -/
  contiguous : ∀ i node, root.preorder[i]? = some node →
    ∃ front back, root.preorder = front ++ node.preorder ++ back ∧ front.length = i
  /-- A node is the parent of those in its child list. -/
  parent_iff : ∀ i p, o.parent? i = some p ↔ ∃ e, o.at? p = some e ∧ i ∈ e.children
  /-- Every node but the root is in one child list, once. -/
  in_one_list : ∀ i, 0 < i → i < o.size → ∃ p e, o.at? p = some e ∧ e.children.count i = 1 ∧
    ∀ q e', o.at? q = some e' → i ∈ e'.children → q = p
  /-- Parents come first. -/
  parent_before : ∀ i p, o.parent? i = some p → p < i
  /-- The way up goes from parent to parent and ends at the root. -/
  way_up : ∀ i, i < o.size → (i :: o.ancestors i).IsChain (fun a b => o.parent? a = some b) ∧
    (i :: o.ancestors i).getLast? = some 0
  /-- It passes what encloses the node in the tree. -/
  ancestors_iff : ∀ i, i < o.size → ∀ a, a ∈ o.ancestors i ↔ root.Encloses a i
  hasAncestor_iff : ∀ i, i < o.size → ∀ kind, o.hasAncestor i kind = true ↔
    ∃ a node, root.Encloses a i ∧ root.preorder[a]? = some node ∧ node.kind = kind
  /-- The tree is read back from the root. -/
  read_back : o.tree? 0 = some root ∧ ∀ i, o.tree? i = root.preorder[i]?

/-- The children of an entry are the places of the children of its node. -/
theorem children_of_preorder {root node : Node} {i : Nat} {e : Entry}
    (he : (ofTree root).at? i = some e) (h : root.preorder[i]? = some node) :
    e.children.map (root.preorder[·]?) = node.children.map some ∧
      ∀ j c, e.children[j]? = some c → c = i + 1 + sizeAll (node.children.take j) := by
  obtain ⟨node', h', -, -, -, hchildren⟩ := preorder_of_at? he
  have hnode : node' = node := Option.some.inj (h'.symm.trans h)
  rw [hchildren, hnode]
  have hplace (j c : Nat) (hc : (starts (i + 1) node.children)[j]? = some c) :
      c = i + 1 + sizeAll (node.children.take j) := by
    rw [getElem?_starts] at hc
    split at hc
    · exact (Option.some.inj hc).symm
    · cases hc
  refine ⟨?_, hplace⟩
  refine List.ext_getElem? fun j => ?_
  rw [List.getElem?_map, List.getElem?_map, getElem?_starts]
  by_cases hj : j < node.children.length
  · rw [if_pos hj, List.getElem?_eq_getElem hj, Option.map_some, Option.map_some,
      preorder_child h (List.getElem?_eq_getElem hj)]
  · rw [if_neg hj, List.getElem?_eq_none (Nat.not_lt.1 hj)]
    rfl

/-- **The outline of a tree is the tree.** -/
theorem mirrors_ofTree (root : Node) : Mirrors (ofTree root) root where
  filled := entries_ofTree root
  size := ⟨size_ofTree root, length_preorder root⟩
  content := map_at?_eq root
  children _ _ _ he h := children_of_preorder he h
  contiguous _ _ h := preorder_eq_append h
  parent_iff _ _ := parent?_eq_some_iff
  in_one_list _ hi hlt := exists_unique_child_list hi hlt
  parent_before _ _ h := parent?_lt h
  way_up i hi := ⟨isChain_ancestors _ i, getLast?_ancestors hi⟩
  ancestors_iff _ hi _ := mem_ancestors_iff hi
  hasAncestor_iff _ hi _ := Outline.hasAncestor_iff hi
  read_back := by
    refine ⟨?_, tree?_eq_preorder root⟩
    rw [tree?_eq_preorder, preorder_eq_cons]
    rfl

end Outline

end Treedown

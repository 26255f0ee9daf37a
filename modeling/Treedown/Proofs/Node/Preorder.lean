import Mathlib.Data.List.Basic
import Treedown.Node.Basic
/-!
# Nodes — the order of a document

The nodes of a tree stand in the order of a document as `Node.preorder`: a
node first, then the trees of its children, one behind the other. A node
takes its place in that row together with all below it, so the tree of the
`i`-th node is a contiguous part of the row (`preorder_eq_append`), and the
node stands above exactly the others of that part (`Node.Encloses`).
-/

namespace Treedown

namespace Node

mutual

/-- **The nodes of a tree in the order of the document**, each with all
below it. -/
def preorder : Node → List Node
  | .mk kind fields children => .mk kind fields children :: preorderAll children

/-- The nodes of several trees, one tree behind the other. -/
def preorderAll : List Node → List Node
  | [] => []
  | node :: rest => preorder node ++ preorderAll rest

end

/-- **The `i`-th node of a tree stands below the `j`-th one**: the row of the
latter goes on beyond the place of the former. -/
def Encloses (root : Node) (j i : Nat) : Prop :=
  ∃ node, root.preorder[j]? = some node ∧ j < i ∧ i < j + node.size

theorem preorder_eq_cons (node : Node) : node.preorder = node :: preorderAll node.children := by
  cases node
  rw [preorder, children]

/-- The nodes of several trees are those of each of them. -/
theorem mem_preorderAll_iff {node : Node} {nodes : List Node} :
    node ∈ preorderAll nodes ↔ ∃ top ∈ nodes, node ∈ top.preorder := by
  induction nodes with
  | nil => simp [preorderAll]
  | cons first rest ih =>
    rw [preorderAll, List.mem_append, ih, List.exists_mem_cons_iff]

theorem size_eq (node : Node) : node.size = 1 + sizeAll node.children := by
  cases node
  rw [size, children]

theorem size_pos (node : Node) : 0 < node.size := by
  have := node.size_eq
  omega

mutual

/-- The row is as long as the tree has nodes. -/
theorem length_preorder (node : Node) : node.preorder.length = node.size := by
  match node with
  | .mk kind fields children =>
    rw [preorder, List.length_cons, length_preorderAll, size, Nat.add_comm]

theorem length_preorderAll (nodes : List Node) : (preorderAll nodes).length = sizeAll nodes := by
  match nodes with
  | [] => rfl
  | node :: rest =>
    rw [preorderAll, List.length_append, length_preorder, length_preorderAll, sizeAll]

end

mutual

/-- **The tree of the `i`-th node is a part of the row**, and the part begins
at the `i`-th place. -/
theorem preorder_eq_append {root node : Node} {i : Nat} (h : root.preorder[i]? = some node) :
    ∃ front back, root.preorder = front ++ node.preorder ++ back ∧ front.length = i := by
  match root, i with
  | .mk kind fields children, 0 =>
    rw [preorder, List.getElem?_cons_zero, Option.some.injEq] at h
    refine ⟨[], [], ?_, rfl⟩
    rw [h, List.nil_append, List.append_nil]
  | .mk kind fields children, i + 1 =>
    rw [preorder, List.getElem?_cons_succ] at h
    obtain ⟨front, back, heq, hlen⟩ := preorderAll_eq_append h
    refine ⟨.mk kind fields children :: front, back, ?_, ?_⟩
    · rw [preorder, heq]
      rfl
    · rw [List.length_cons, hlen]

theorem preorderAll_eq_append {nodes : List Node} {node : Node} {i : Nat}
    (h : (preorderAll nodes)[i]? = some node) :
    ∃ front back, preorderAll nodes = front ++ node.preorder ++ back ∧ front.length = i := by
  match nodes with
  | [] => simp [preorderAll] at h
  | first :: rest =>
    rw [preorderAll, List.getElem?_append, length_preorder] at h
    rw [preorderAll]
    by_cases hi : i < first.size
    · -- the node stands in the first tree
      rw [if_pos hi] at h
      obtain ⟨front, back, heq, hlen⟩ := preorder_eq_append h
      refine ⟨front, back ++ preorderAll rest, ?_, hlen⟩
      rw [heq, List.append_assoc _ back]
    · rw [if_neg hi] at h
      obtain ⟨front, back, heq, hlen⟩ := preorderAll_eq_append h
      refine ⟨first.preorder ++ front, back, ?_, ?_⟩
      · rw [heq, List.append_assoc, List.append_assoc, List.append_assoc]
      · rw [List.length_append, length_preorder, hlen]
        omega

end

/-- No tree inside another ends behind it. -/
theorem add_size_le_of_preorder {root node : Node} {i : Nat} (h : root.preorder[i]? = some node) :
    i + node.size ≤ root.size := by
  obtain ⟨front, back, heq, hlen⟩ := preorder_eq_append h
  have hrow := congrArg List.length heq
  rw [List.length_append, List.length_append, length_preorder, length_preorder] at hrow
  omega

/-- **The place of a child**: the row of several trees has the `j`-th of them
behind all trees in front of it. -/
theorem getElem?_preorderAll {nodes : List Node} {j : Nat} (hj : j < nodes.length) :
    (preorderAll nodes)[sizeAll (nodes.take j)]? = nodes[j]? := by
  induction nodes generalizing j with
  | nil => exact absurd hj (Nat.not_lt_zero j)
  | cons first rest ih =>
    match j with
    | 0 =>
      rw [List.take_zero, sizeAll, preorderAll, preorder_eq_cons]
      rfl
    | j + 1 =>
      have hrest : j < rest.length := by
        rw [List.length_cons] at hj
        omega
      rw [List.take_succ_cons, sizeAll, preorderAll,
        List.getElem?_append_right (by rw [length_preorder]; omega), length_preorder,
        Nat.add_sub_cancel_left, ih hrest, List.getElem?_cons_succ]

end Node

end Treedown

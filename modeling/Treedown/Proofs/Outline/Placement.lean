import Treedown.Outline.Render
/-!
# Outlines — where a tree stands

`Holds o parent i node` says that the outline `o` holds the tree `node`
from the index `i` on, under `parent`: the entry at `i` has the kind and
the fields of the node, and its children stand behind it one after the
other. An outline made from a tree holds it (`holds_ofTree`), and every
index of it is the index of some subtree (`exists_holds`). What is read
from an outline at an index is then a fact about the tree that stands
there: `Holds.tree?` reads the tree back, and `context_of_parent` says
that looking upwards from a child sees what its parent sees and the parent
itself.
-/

namespace Treedown

namespace Outline

open Render

variable {o : Outline} {e : Entry}

mutual

/-- **A tree stands at an index** of an outline, under a parent. -/
def Holds (o : Outline) (parent : Option Nat) (i : Nat) : Node → Prop
  | .mk kind fields children =>
    o.at? i = some ⟨kind, fields, parent, starts (i + 1) children⟩ ∧
      HoldsAll o i (i + 1) children

/-- Trees stand one after the other under one parent. -/
def HoldsAll (o : Outline) (parent start : Nat) : List Node → Prop
  | [] => True
  | node :: rest =>
    Holds o (some parent) start node ∧ HoldsAll o parent (start + node.size) rest

end

/-! ## An outline holds the tree that it was made from -/

mutual

/-- A row of entries laid out for a tree holds the tree. -/
theorem holds_of_place (parent : Option Nat) (i : Nat) (node : Node)
    (h : ∀ k e, (place parent i node)[k]? = some e → o.at? (i + k) = some e) :
    Holds o parent i node := by
  match node with
  | .mk kind fields children =>
    rw [place] at h
    refine ⟨h 0 _ rfl, holdsAll_of_placeAll i (i + 1) children fun k e hk => ?_⟩
    have := h (k + 1) e (by rwa [List.getElem?_cons_succ])
    rwa [show i + 1 + k = i + (k + 1) by omega]

theorem holdsAll_of_placeAll (parent start : Nat) (nodes : List Node)
    (h : ∀ k e, (placeAll parent start nodes)[k]? = some e → o.at? (start + k) = some e) :
    HoldsAll o parent start nodes := by
  match nodes with
  | [] => trivial
  | node :: rest =>
    rw [placeAll] at h
    refine ⟨holds_of_place (some parent) start node fun k e hk => ?_,
      holdsAll_of_placeAll parent (start + node.size) rest fun k e hk => ?_⟩
    · have hlt : k < (place (some parent) start node).length :=
        (List.getElem?_eq_some_iff.1 hk).1
      exact h k e (by rwa [List.getElem?_append_left hlt])
    · have := h (node.size + k) e (by
        rw [List.getElem?_append_right (by rw [length_place]; omega), length_place,
          Nat.add_sub_cancel_left]
        exact hk)
      rwa [show start + node.size + k = start + (node.size + k) by omega]

end

/-- **The outline of a tree holds the tree.** -/
theorem holds_ofTree (root : Node) : Holds (ofTree root) none 0 root :=
  holds_of_place none 0 root fun k e hk => by
    simpa [at?, ofTree] using hk

theorem size_ofTree (root : Node) : (ofTree root).size = root.size := by
  simp [Outline.size, ofTree, length_place]

/-! ## Every index is that of a subtree -/

theorem Holds.at? {parent : Option Nat} {i : Nat} {kind : Kind} {fields : Fields}
    {children : List Node} (h : Holds o parent i (.mk kind fields children)) :
    o.at? i = some ⟨kind, fields, parent, starts (i + 1) children⟩ := h.1

theorem Holds.holdsAll {parent : Option Nat} {i : Nat} {kind : Kind} {fields : Fields}
    {children : List Node} (h : Holds o parent i (.mk kind fields children)) : HoldsAll o i (i + 1) children := h.2

mutual

/-- Inside a tree that stands in an outline every index holds a subtree. -/
theorem Holds.exists_holds {parent : Option Nat} {i j : Nat} {node : Node}
    (h : Holds o parent i node) (hi : i ≤ j) (hj : j < i + node.size) : ∃ q sub, Holds o q j sub := by
  match node with
  | .mk kind fields children =>
    rcases Nat.eq_or_lt_of_le hi with rfl | hlt
    · exact ⟨parent, _, h⟩
    · rw [Node.size] at hj
      exact h.holdsAll.exists_holds (by omega) (by omega)

theorem HoldsAll.exists_holds {p start j : Nat} {nodes : List Node}
    (h : HoldsAll o p start nodes) (hs : start ≤ j) (hj : j < start + Node.sizeAll nodes) : ∃ q sub, Holds o q j sub := by
  match nodes with
  | [] =>
    rw [Node.sizeAll] at hj
    omega
  | node :: rest =>
    rw [Node.sizeAll] at hj
    rcases Nat.lt_or_ge j (start + node.size) with hlt | hge
    · exact h.1.exists_holds hs hlt
    · exact h.2.exists_holds hge (by omega)

end

/-- **Every index of the outline of a tree holds a subtree.** -/
theorem exists_holds {root : Node} {j : Nat} (hj : j < (ofTree root).size) :
    ∃ q sub, Holds (ofTree root) q j sub := by
  rw [size_ofTree] at hj
  exact (holds_ofTree root).exists_holds (Nat.zero_le j) (by omega)

/-! ## The tree at an index -/

theorem tree?_of_at? {i : Nat} (he : o.at? i = some e) :
    o.tree? i = (e.children.mapM o.tree?).map (.mk e.kind e.fields) := by
  rw [tree?]
  split
  · rename_i h
    rw [he] at h
    cases h
  · rename_i e' h
    rw [he] at h
    cases h
    rw [List.mapM_subtype (g := o.tree?) fun _ _ => rfl, List.unattach_attach]

/-- A tree is read from inside the row only. -/
theorem lt_size_of_tree? {i : Nat} {node : Node} (h : o.tree? i = some node) : i < o.size := by
  cases he : o.at? i with
  | some e => exact lt_size he
  | none =>
    rw [tree?] at h
    split at h
    · cases h
    · rename_i e he'
      rw [he] at he'
      cases he'

mutual

/-- **The tree that stands at an index is read back from it.** -/
theorem Holds.tree? {parent : Option Nat} {i : Nat} {node : Node}
    (h : Holds o parent i node) : o.tree? i = some node := by
  match node with
  | .mk kind fields children =>
    rw [tree?_of_at? h.at?, h.holdsAll.mapM_tree?]
    rfl

theorem HoldsAll.mapM_tree? {p start : Nat} {nodes : List Node}
    (h : HoldsAll o p start nodes) : (starts start nodes).mapM o.tree? = some nodes := by
  match nodes with
  | [] => rfl
  | node :: rest =>
    rw [starts, List.mapM_cons, h.1.tree?, h.2.mapM_tree?]
    rfl

end

/-! ## Looking upwards -/

theorem ancestors_of_parent {c i : Nat} (he : o.at? c = some e) (hp : e.parent = some i) :
    o.ancestors c = i :: o.ancestors i := by
  rw [ancestors]
  split
  · rename_i h
    rw [he] at h
    cases h
  · rename_i e' h
    rw [he] at h
    cases h
    split
    · rename_i hnone
      rw [hp] at hnone
      cases hnone
    · rename_i q hq
      rw [hp] at hq
      cases hq
      rfl

/-- **What a child sees above itself** is what its parent sees, and the
parent. -/
theorem context_of_parent {c i : Nat} {e' : Entry} (hc : o.at? c = some e') (hp : e'.parent = some i)
    (hi : o.at? i = some e) : o.context c = (o.context i).within e.kind := by
  have hparent : o.parent? c = some i := by rw [parent?, hc, Option.bind_some, hp]
  have hkind : o.kind? i = some e.kind := by rw [kind?, hi, Option.map_some]
  have hitem : (o.context c).inItem = decide (e.kind = .known .listItem) := by
    simp [context, hparent, hkind]
  have hexample : (o.context c).inExample =
      ((o.context i).inExample || decide (e.kind = .known .example)) := by
    simp [context, hasAncestor, ancestors_of_parent hc hp, hkind, Bool.or_comm]
  rw [Context.within, ← hitem, ← hexample]
  rfl

end Outline

end Treedown

import Treedown.Node.Basic
/-!
# Outlines — a document as a row of nodes

The nodes of a tree in the order of their first lines: a node comes before
its children, and a child with all below it before the next child. An
index names a node; it knows the index above it and those below it. The
type holds that indices grow downwards, so that walking up (`ancestors`)
and reading a tree back (`tree?`) end.
-/

namespace Treedown

/-- **A node of an outline.** -/
structure Outline.Entry where
  kind : Kind
  fields : Fields
  /-- The node above; the root has none. -/
  parent : Option Nat
  /-- The nodes directly below, in order. -/
  children : List Nat

namespace Outline

/-- Whether the entries, the first of which has the index `start`, stand
below what they name as their parent and above what they name as their
children. -/
def Descends (start : Nat) (entries : List Entry) : Prop :=
  ∀ k e, entries[k]? = some e →
    (∀ p, e.parent = some p → p < start + k) ∧ ∀ c ∈ e.children, start + k < c

/-- The indices of trees that stand one after the other, the first of them
from `start` on. -/
def starts (start : Nat) : List Node → List Nat
  | [] => []
  | node :: rest => start :: starts (start + node.size) rest

mutual

/-- The entries of a tree whose root has the index `start`. -/
def place (parent : Option Nat) (start : Nat) : Node → List Entry
  | .mk kind fields children =>
    ⟨kind, fields, parent, starts (start + 1) children⟩ :: placeAll start (start + 1) children

/-- The entries of several trees under one parent. -/
def placeAll (parent start : Nat) : List Node → List Entry
  | [] => []
  | node :: rest =>
    place (some parent) start node ++ placeAll parent (start + node.size) rest

end

theorem le_of_mem_starts {start c : Nat} {nodes : List Node} (h : c ∈ starts start nodes) :
    start ≤ c := by
  induction nodes generalizing start with
  | nil => simp [starts] at h
  | cons node rest ih =>
    rcases List.mem_cons.1 h with rfl | h
    · exact Nat.le_refl _
    · exact Nat.le_trans (Nat.le_add_right _ _) (ih h)

mutual

/-- **A tree takes as many entries as it has nodes.** -/
theorem length_place (parent : Option Nat) (start : Nat) (node : Node) :
    (place parent start node).length = node.size := by
  match node with
  | .mk kind fields children =>
    rw [place, List.length_cons, length_placeAll, Node.size, Nat.add_comm]

theorem length_placeAll (parent start : Nat) (nodes : List Node) :
    (placeAll parent start nodes).length = Node.sizeAll nodes := by
  match nodes with
  | [] => rfl
  | node :: rest =>
    rw [placeAll, List.length_append, length_place, length_placeAll, Node.sizeAll]

end

mutual

theorem descends_place (parent : Option Nat) (start : Nat) (node : Node)
    (h : ∀ p, parent = some p → p < start) : Descends start (place parent start node) := by
  match node with
  | .mk kind fields children =>
    intro k e he
    rw [place] at he
    match k with
    | 0 =>
      rw [List.getElem?_cons_zero, Option.some.injEq] at he
      subst he
      exact ⟨h, fun c hc => le_of_mem_starts hc⟩
    | k + 1 =>
      rw [List.getElem?_cons_succ] at he
      have := descends_placeAll start (start + 1) children (Nat.lt_succ_self _) k e he
      rwa [Nat.add_assoc, Nat.add_comm 1 k] at this

theorem descends_placeAll (parent start : Nat) (nodes : List Node) (h : parent < start) :
    Descends start (placeAll parent start nodes) := by
  match nodes with
  | [] =>
    intro k e he
    simp [placeAll] at he
  | node :: rest =>
    intro k e he
    rw [placeAll, List.getElem?_append, length_place] at he
    split at he
    · exact descends_place (some parent) start node
        (fun p hp => by rw [← Option.some.inj hp]; exact h) k e he
    · have := descends_placeAll parent (start + node.size) rest (by omega) _ e he
      rwa [show start + node.size + (k - node.size) = start + k by omega] at this

end

end Outline

/-- **The nodes of a document in a row.** -/
structure Outline where
  entries : Array Outline.Entry
  /-- Indices grow downwards. -/
  descends : Outline.Descends 0 entries.toList

namespace Outline

/-- The outline of a tree. -/
def ofTree (root : Node) : Outline where
  entries := (place none 0 root).toArray
  descends := descends_place none 0 root fun _ h => nomatch h

/-- The number of nodes. -/
def size (o : Outline) : Nat :=
  o.entries.size

/-- The node at an index. -/
def at? (o : Outline) (i : Nat) : Option Entry :=
  o.entries[i]?

theorem parent_lt {o : Outline} {i p : Nat} {e : Entry} (he : o.at? i = some e)
    (hp : e.parent = some p) : p < i := by
  have := (o.descends i e (by simpa [at?] using he)).1 p hp
  omega

theorem lt_child {o : Outline} {i c : Nat} {e : Entry} (he : o.at? i = some e)
    (hc : c ∈ e.children) : i < c := by
  have := (o.descends i e (by simpa [at?] using he)).2 c hc
  omega

theorem lt_size {o : Outline} {i : Nat} {e : Entry} (he : o.at? i = some e) : i < o.size :=
  (Array.getElem?_eq_some_iff.1 he).1

/-- The node above an index. -/
def parent? (o : Outline) (i : Nat) : Option Nat :=
  (o.at? i).bind (·.parent)

/-- The kind of the node at an index. -/
def kind? (o : Outline) (i : Nat) : Option Kind :=
  (o.at? i).map (·.kind)

/-- **The nodes above an index**, the nearest first. -/
def ancestors (o : Outline) (i : Nat) : List Nat :=
  match _he : o.at? i with
  | none => []
  | some e =>
    match _hp : e.parent with
    | none => []
    | some p => p :: ancestors o p
termination_by i
decreasing_by exact parent_lt _he _hp

/-- Whether a node of a kind stands above an index. -/
def hasAncestor (o : Outline) (i : Nat) (kind : Kind) : Bool :=
  (o.ancestors i).any fun a => o.kind? a = some kind

/-- **The tree at an index**, read from the outline. -/
def tree? (o : Outline) (i : Nat) : Option Node :=
  match _he : o.at? i with
  | none => none
  | some e => (e.children.attach.mapM fun c => tree? o c.1).map (.mk e.kind e.fields)
termination_by o.size - i
decreasing_by
  have := lt_child _he c.2
  have := lt_size _he
  omega

/-- The fields of the root. -/
def rootFields (o : Outline) : Fields :=
  ((o.at? 0).map (·.fields)).getD .empty

/-- The title of the document, unless it is blank. -/
def title? (o : Outline) : Option Text :=
  Text.unlessBlank o.rootFields.title

/-- An attribute of the document. -/
def attribute? (o : Outline) (key : Text) : Option Text :=
  o.rootFields.attribute? key

end Outline

end Treedown

import Mathlib.Data.List.Basic
import Treedown.Outline.Basic
/-!
# Outlines — filled node by node

An outline can be filled in one pass over the tree: a node is put at the
end of the row without children, each of its children follows with all
below it, and as soon as that is done the child's index is noted at the
node (`fill`). The pass touches entries that were put long before, those of
the nodes that it is inside of. `fill_eq` says that it comes to the row that
is laid out from the sizes of the trees (`place`): it leaves the entries in
front of its own as they are, and notes the children's indices as they
result from what stands behind each of them.
-/

namespace Treedown

namespace Outline

/-- The entry with one more child behind its own. -/
def Entry.adopt (child : Nat) (e : Entry) : Entry :=
  { e with children := e.children ++ [child] }

mutual

/-- **A tree put at the end of a row**, under a parent. -/
def fill (row : List Entry) (parent : Option Nat) : Node → List Entry
  | .mk kind fields children =>
    fillAll (row ++ [⟨kind, fields, parent, []⟩]) row.length children

/-- Several trees put at the end of a row, the index of each noted at the
parent. -/
def fillAll (row : List Entry) (parent : Nat) : List Node → List Entry
  | [] => row
  | node :: rest =>
    fillAll ((fill row (some parent) node).modify parent (.adopt row.length)) parent rest

end

/-- The entry with several children behind its own. -/
def Entry.adoptAll (children : List Nat) (e : Entry) : Entry :=
  { e with children := e.children ++ children }

/-- Children are adopted one after the other. -/
theorem Entry.adoptAll_comp_adopt (child : Nat) (children : List Nat) :
    Entry.adoptAll children ∘ Entry.adopt child = Entry.adoptAll (child :: children) := by
  funext e
  simp [adopt, adoptAll]

theorem Entry.adoptAll_nil : Entry.adoptAll [] = id := by
  funext e
  simp [adoptAll]

/-- What stands behind an entry has no part in its change. -/
theorem modify_append_of_lt {row : List Entry} {p : Nat} (f : Entry → Entry) (h : p < row.length)
    (behind : List Entry) : (row ++ behind).modify p f = row.modify p f ++ behind := by
  rw [List.modify_eq_take_drop, List.modify_eq_take_drop, List.take_append_of_le_length (by omega),
    List.drop_append_of_le_length (by omega), List.append_assoc]
  obtain ⟨e, rest, hdrop⟩ : ∃ e rest, row.drop p = e :: rest := by
    refine List.exists_cons_of_ne_nil fun hnil => ?_
    have := List.drop_eq_nil_iff.1 hnil
    omega
  rw [hdrop]
  rfl

mutual

/-- **A pass over a tree appends the entries of the tree**, and leaves the row
in front of them as it is. -/
theorem fill_eq (row : List Entry) (parent : Option Nat) (node : Node) :
    fill row parent node = row ++ place parent row.length node := by
  match node with
  | .mk kind fields children =>
    have hlen : (row ++ [⟨kind, fields, parent, []⟩] : List Entry).length = row.length + 1 := by
      rw [List.length_append, List.length_singleton]
    rw [fill, fillAll_eq (by omega), hlen, place, List.modify_eq_take_drop, List.take_left,
      List.drop_left, List.append_assoc]
    -- the entry itself has adopted all its children
    rfl

/-- A pass over several trees appends their entries, and notes at the parent
where each of them begins. -/
theorem fillAll_eq {row : List Entry} {parent : Nat} (h : parent < row.length)
    (nodes : List Node) :
    fillAll row parent nodes = row.modify parent (.adoptAll (starts row.length nodes)) ++
      placeAll parent row.length nodes := by
  match nodes with
  | [] =>
    rw [fillAll, starts, placeAll, Entry.adoptAll_nil, List.modify_id, List.append_nil]
  | node :: rest =>
    have hlen : ((row ++ place (some parent) row.length node).modify parent
        (.adopt row.length)).length = row.length + node.size := by
      rw [List.length_modify, List.length_append, length_place]
    rw [fillAll, fill_eq, fillAll_eq (by rw [hlen]; omega), hlen, List.modify_modify_eq,
      Entry.adoptAll_comp_adopt, modify_append_of_lt _ h, starts, placeAll, List.append_assoc]

end

/-- **The outline of a tree is what a pass over the tree fills.** -/
theorem entries_ofTree (root : Node) : (ofTree root).entries.toList = fill [] none root := by
  rw [fill_eq, List.nil_append]
  rfl

end Outline

end Treedown

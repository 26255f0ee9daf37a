import Treedown.Proofs.Render.Fault
import Treedown.Proofs.Render.Visit
/-!
# Rendering — what it fails on

The fault of a rendering is the first defect in its row of visits. That row
is the set of visited nodes in the order of the document, so a rendering
fails on the first malformed node that is visited, and nothing else makes
it fail.
-/

namespace Treedown

namespace Outline

open Render

/-- **What is wrong with the shape of an entry**: it is a list without
items, or a table whose grid, if it has one, has no columns. -/
def Entry.Flawed (e : Entry) (m : Malformed) : Prop :=
  (e.kind.isList = true ∧ e.children = [] ∧ m = ⟨e.kind, .noItems⟩) ∨
    (e.kind = .known .table ∧ (∀ grid, e.fields.grid = some grid → grid.columnCount = 0) ∧
      m = ⟨e.kind, .noColumns⟩)

/-- A visited node whose shape is wrong. -/
def VisitedFlaw (o : Outline) (i : Nat) (m : Malformed) : Prop :=
  Visited o i ∧ ∃ e, o.at? i = some e ∧ e.Flawed m

theorem columnCount_cells_eq_zero_iff {f : Fields} :
    f.cells.columnCount = 0 ↔ ∀ grid, f.grid = some grid → grid.columnCount = 0 := by
  cases h : f.grid <;> simp [Fields.cells, h, Grid.columnCount, Grid.empty]

theorem defect?_eq_some_iff {e : Entry} {v : Visit} {m : Malformed} (hk : e.kind = v.kind)
    (hf : e.fields = v.fields) (hc : v.hasChildren = !e.children.isEmpty) :
    v.defect? = some m ↔ e.Flawed m := by
  rw [Entry.Flawed, Visit.defect?, ← hk, ← hf, hc, ← columnCount_cells_eq_zero_iff]
  cases hkind : e.kind with
  | other name unknown => simp [Kind.isList]
  | known k => cases k <;> simp [Kind.isList, eq_comm (a := m)]

/-- A flaw of a visited node is the defect of a visit. -/
theorem visitedFlaw_iff {root : Node} {i : Nat} {m : Malformed} :
    VisitedFlaw (ofTree root) i m ↔ ∃ v ∈ visitsOf root, v.index = i ∧ v.defect? = some m := by
  constructor
  · rintro ⟨hi, e, he, hflaw⟩
    obtain ⟨v, hv, rfl⟩ := exists_visit_iff.2 hi
    obtain ⟨e', he', hk, hf, hc⟩ := (visited_of_mem_visitsOf hv).2
    have heq := Option.some.inj (he.symm.trans he')
    subst heq
    exact ⟨v, hv, rfl, (defect?_eq_some_iff hk hf hc).2 hflaw⟩
  · rintro ⟨v, hv, rfl, hm⟩
    obtain ⟨hi, e, he, hk, hf, hc⟩ := visited_of_mem_visitsOf hv
    exact ⟨hi, e, he, (defect?_eq_some_iff hk hf hc).1 hm⟩

/-- In a row that is in order the first defect is the one with the least
index. -/
theorem findSome?_defect?_eq_some_iff {row : List Visit} {m : Malformed}
    (hrow : row.Pairwise (·.index < ·.index)) :
    row.findSome? Visit.defect? = some m ↔ ∃ v ∈ row, v.defect? = some m ∧
      ∀ w ∈ row, w.index < v.index → w.defect? = none := by
  induction row with
  | nil => simp
  | cons v rest ih =>
    obtain ⟨hlt, hrest⟩ := List.pairwise_cons.1 hrow
    rw [List.findSome?_cons]
    cases hv : v.defect? with
    | some m' =>
      -- the first visit is flawed, and no visit has a smaller index
      constructor
      · intro hm
        refine ⟨v, List.mem_cons_self, by rw [hv]; exact hm, fun w hw hwv => ?_⟩
        rcases List.mem_cons.1 hw with rfl | hw
        · omega
        · have := hlt w hw
          omega
      · rintro ⟨w, hw, hwm, hmin⟩
        rcases List.mem_cons.1 hw with rfl | hw
        · exact hv.symm.trans hwm
        · have := hmin v List.mem_cons_self (hlt w hw)
          rw [hv] at this
          cases this
    | none =>
      -- the first visit is sound, so it neither is the one nor comes before it
      rw [ih hrest]
      constructor
      · rintro ⟨w, hw, hwm, hmin⟩
        refine ⟨w, List.mem_cons_of_mem _ hw, hwm, fun u hu huw => ?_⟩
        rcases List.mem_cons.1 hu with rfl | hu
        · exact hv
        · exact hmin u hu huw
      · rintro ⟨w, hw, hwm, hmin⟩
        rcases List.mem_cons.1 hw with rfl | hw
        · rw [hv] at hwm
          cases hwm
        · exact ⟨w, hw, hwm, fun u hu => hmin u (List.mem_cons_of_mem _ hu)⟩

/-- **What a rendering fails on.** It fails just if some visited node is a
list without items or a table without columns, and it names the first such
node in the order of the document, whatever the options and the files
are. -/
theorem renderTree_eq_error_iff (s : Setting) (root : Node) :
    ((∃ m, renderTree s root = .error m) ↔ ∃ i m, VisitedFlaw (ofTree root) i m) ∧
      ∀ m, renderTree s root = .error m ↔ ∃ i, VisitedFlaw (ofTree root) i m ∧
        ∀ j < i, ∀ m', ¬ VisitedFlaw (ofTree root) j m' := by
  -- what the row of visits says, to be said of the nodes of the outline
  have hfirst (m : Malformed) : renderTree s root = .error m ↔ ∃ v ∈ visitsOf root,
      v.defect? = some m ∧ ∀ w ∈ visitsOf root, w.index < v.index → w.defect? = none := by
    rw [← fault?_eq_some_iff, fault?_renderTree]
    exact findSome?_defect?_eq_some_iff (pairwise_visits _ _ _ _)
  refine ⟨?_, fun m => (hfirst m).trans ⟨?_, ?_⟩⟩
  · have hsome (x : Except Malformed Text) : (∃ m, x = .error m) ↔ (fault? x).isSome = true := by
      cases x <;> simp
    rw [hsome, fault?_renderTree, List.findSome?_isSome_iff]
    simp only [visitedFlaw_iff, Option.isSome_iff_exists]
    constructor
    · rintro ⟨v, hv, m, hm⟩
      exact ⟨v.index, m, v, hv, rfl, hm⟩
    · rintro ⟨_, m, v, hv, -, hm⟩
      exact ⟨v, hv, m, hm⟩
  · rintro ⟨v, hv, hm, hmin⟩
    refine ⟨v.index, visitedFlaw_iff.2 ⟨v, hv, rfl, hm⟩, fun j hj m' hflaw => ?_⟩
    obtain ⟨w, hw, rfl, hwm⟩ := visitedFlaw_iff.1 hflaw
    rw [hmin w hw hj] at hwm
    cases hwm
  · rintro ⟨i, hflaw, hmin⟩
    obtain ⟨v, hv, rfl, hm⟩ := visitedFlaw_iff.1 hflaw
    refine ⟨v, hv, hm, fun w hw hlt => ?_⟩
    by_contra hne
    obtain ⟨m', hm'⟩ := Option.ne_none_iff_exists'.1 hne
    exact hmin w.index hlt m' (visitedFlaw_iff.2 ⟨w, hw, rfl, hm'⟩)

end Outline

end Treedown

import Treedown.Failure
import Treedown.Render.Journal
/-!
# Backends and their registry

A backend renders documents in one output syntax. A registry holds
backends under their names, in the order of the names and each name once;
registering a backend takes the place of one with the same name.
-/

namespace Treedown

/-- **A backend.** -/
structure Backend where
  /-- What it is chosen by. -/
  name : Text
  description : Text := []
  /-- The type of the files that it writes. -/
  filetype : Text
  /-- What the names of these files end in. -/
  suffix : Text
  /-- The extensions by which these files are known. -/
  extensions : List Text := []
  render : Render.Setting → Node → Except Failure Text
  /-- What a rendering reports. -/
  journal : Render.Setting → Node → List Log.Record := fun _ _ => []

/-- The backend that writes Markdown++. -/
def Backend.markdown : Backend where
  name := "mdpp"
  description := "Markdown++: Markdown with HTML-comment style and id tags"
  filetype := "md"
  suffix := ".md"
  extensions := ["md", "mdpp"]
  render s root := (Render.renderTree s root).mapError .malformed
  journal := Render.journal

/-- Whether backends stand in the order of their names, each name once. -/
def Ascending (backends : List Backend) : Prop :=
  backends.Pairwise (·.name < ·.name)

namespace Backend

/-- The backends with one more, in the place of its name. -/
def insert (b : Backend) : List Backend → List Backend
  | [] => [b]
  | x :: rest =>
    if b.name = x.name then b :: rest
    else if b.name < x.name then b :: x :: rest
    else x :: insert b rest

theorem name_mem_of_mem_insert {b y : Backend} {backends : List Backend}
    (h : y ∈ insert b backends) : y = b ∨ y ∈ backends := by
  induction backends with
  | nil => simpa [insert] using h
  | cons x rest ih =>
    unfold insert at h
    split at h
    · rcases List.mem_cons.1 h with rfl | h
      · exact .inl rfl
      · exact .inr (List.mem_cons_of_mem _ h)
    · split at h
      · rcases List.mem_cons.1 h with rfl | h
        · exact .inl rfl
        · exact .inr h
      · rcases List.mem_cons.1 h with rfl | h
        · exact .inr (List.mem_cons_self ..)
        · exact (ih h).imp_right (List.mem_cons_of_mem _)

theorem ascending_insert {b : Backend} {backends : List Backend} (h : Ascending backends) :
    Ascending (insert b backends) := by
  induction backends with
  | nil => exact List.pairwise_singleton ..
  | cons x rest ih =>
    have hx := List.pairwise_cons.1 h
    unfold insert
    split
    · rename_i heq
      exact List.pairwise_cons.2 ⟨fun y hy => heq ▸ hx.1 y hy, hx.2⟩
    · rename_i hne
      split
      · rename_i hlt
        refine List.pairwise_cons.2 ⟨fun y hy => ?_, h⟩
        rcases List.mem_cons.1 hy with rfl | hy
        · exact hlt
        · exact List.lt_trans hlt (hx.1 y hy)
      · rename_i hge
        refine List.pairwise_cons.2 ⟨fun y hy => ?_, ih hx.2⟩
        rcases name_mem_of_mem_insert hy with rfl | hy
        · rcases List.le_iff_lt_or_eq.1 (List.not_lt.1 hge) with hlt | heq
          · exact hlt
          · exact absurd heq.symm hne
        · exact hx.1 y hy

end Backend

/-- **Backends under their names.** -/
structure Registry where
  backends : List Backend
  ascending : Ascending backends

namespace Registry

/-- No backends. -/
def empty : Registry := ⟨[], List.Pairwise.nil⟩

/-- The registry with a backend under its name. -/
def register (r : Registry) (b : Backend) : Registry :=
  ⟨b.insert r.backends, Backend.ascending_insert r.ascending⟩

/-- The registry that every run starts with. -/
def standard : Registry :=
  empty.register .markdown

/-- The names, in order. -/
def names (r : Registry) : List Text :=
  r.backends.map (·.name)

/-- The backend under a name. -/
def get? (r : Registry) (name : Text) : Option Backend :=
  r.backends.find? (·.name = name)

/-- Whether there is a backend under a name. -/
def has (r : Registry) (name : Text) : Bool :=
  (r.get? name).isSome

/-- The backend under a name, or the failure to find one. -/
def get (r : Registry) (name : Text) : Except Failure Backend :=
  match r.get? name with
  | some b => .ok b
  | none => .error (.unknownBackend name)

/-- The extension of the last name on a path: what stands behind its last
dot, unless that dot comes first. -/
def extension? (path : Text) : Option Text :=
  match (Files.names path).getLast? with
  | none => none
  | some name =>
    if name = Place.above then none
    else match name.reverse.dropWhile (· ≠ '.') with
      | _ :: _ :: _ => some (name.reverse.takeWhile (· ≠ '.')).reverse
      | _ => none

/-- **The backend whose files are named like a path.** -/
def detect? (r : Registry) (path : Text) : Option Text := do
  let extension ← extension? path
  let b ← r.backends.find? (·.extensions.contains extension)
  return b.name

/-- **A document rendered** by the backend under a name. -/
def render (r : Registry) (name : Text) (s : Render.Setting) (root : Node) :
    Except Failure Text := do
  (← r.get name).render s root

end Registry

end Treedown

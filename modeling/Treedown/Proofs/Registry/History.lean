import Mathlib.Data.List.Induction
import Mathlib.Data.List.Nodup
import Treedown.Registry
import Treedown.Proofs.Text.Bytes
import Treedown.Proofs.Text.Cut
/-!
# Backends — a registry after any registrations

A registry holds the backends that were registered last under their names, and
no others (`mem_backends_iff`). Everything that can be asked of it is answered
from these (`answers_of_registered`): a backend that was replaced is neither
found under its name nor by its extensions.
-/

namespace Treedown

/-! ## Extensions -/

namespace Registry

/-- Whether a part of a path between slashes names something. -/
def IsName (part : Text) : Prop :=
  part ≠ [] ∧ part ≠ ['.']

/-- The last name on a path. -/
def LastName (path name : Text) : Prop :=
  ∃ before after, path.splitOn '/' = before ++ name :: after ∧ IsName name ∧
    ∀ part ∈ after, ¬ IsName part

/-- **The extension of a path**: what stands behind the last dot of its last
name, if that is not the folder around and the dot does not come first. -/
def HasExtension (path extension : Text) : Prop :=
  ∃ name, LastName path name ∧ name ≠ Place.above ∧
    ∃ stem, stem ≠ [] ∧ name = stem ++ '.' :: extension ∧ '.' ∉ extension

variable {path name extension : Text}

theorem getLast?_names_eq_some_iff :
    (Files.names path).getLast? = some name ↔ LastName path name := by
  rw [Files.names, ← List.head?_reverse, ← List.filter_reverse, List.head?_filter,
    List.find?_eq_some_iff_append]
  constructor
  · rintro ⟨hname, before, after, heq, hbefore⟩
    refine ⟨after.reverse, before.reverse, ?_, by simpa [IsName] using hname, fun part hpart => ?_⟩
    · rw [← List.reverse_reverse (path.splitOn '/'), heq]
      simp
    · have hnone := hbefore part (List.mem_reverse.1 hpart)
      simpa [IsName, or_iff_not_imp_left] using hnone
  · rintro ⟨before, after, heq, hname, hafter⟩
    refine ⟨by simpa [IsName] using hname, after.reverse, before.reverse, ?_, fun part hpart => ?_⟩
    · rw [heq]
      simp
    · have hnone := hafter part (List.mem_reverse.1 hpart)
      simpa [IsName, or_iff_not_imp_left] using hnone

/-- What stands behind the last dot of a name that does not start with it. -/
theorem behindLastDot_eq_some_iff :
    (match name.reverse.dropWhile (· ≠ '.') with
      | _ :: _ :: _ => some (name.reverse.takeWhile (· ≠ '.')).reverse
      | _ => none) = some extension ↔
    ∃ stem, stem ≠ [] ∧ name = stem ++ '.' :: extension ∧ '.' ∉ extension := by
  constructor
  · intro h
    split at h
    · rename_i x c front hdrop
      have hcut : Text.cutAt '.' name.reverse =
          some (name.reverse.takeWhile (· ≠ '.'), c :: front) := by rw [Text.cutAt, hdrop]
      obtain ⟨hdot, hname⟩ := Text.cutAt_reverse_eq_some_iff.1 hcut
      rw [Option.some.inj h] at hname
      refine ⟨(c :: front).reverse, by simp, hname, ?_⟩
      rw [← Option.some.inj h, List.mem_reverse]
      exact hdot
    · cases h
  · rintro ⟨stem, hstem, hname, hdot⟩
    have hcut : Text.cutAt '.' name.reverse = some (extension.reverse, stem.reverse) :=
      Text.cutAt_reverse_eq_some_iff.2 ⟨by simpa using hdot, by simpa using hname⟩
    obtain ⟨c, front, hfront⟩ := List.exists_cons_of_ne_nil (List.reverse_ne_nil_iff.2 hstem)
    rw [Text.cutAt, hfront] at hcut
    split at hcut
    · cases hcut
    · rename_i hdrop
      obtain ⟨htake, rfl⟩ := Prod.mk.inj (Option.some.inj hcut)
      rw [hdrop, htake, List.reverse_reverse]

/-- **The extension is found.** -/
theorem extension?_eq_some_iff :
    extension? path = some extension ↔ HasExtension path extension := by
  rw [extension?, HasExtension]
  cases hlast : (Files.names path).getLast? with
  | none =>
    refine iff_of_false nofun fun ⟨name, hname, _⟩ => ?_
    rw [getLast?_names_eq_some_iff.2 hname] at hlast
    cases hlast
  | some name =>
    have honly : ∀ other, LastName path other ↔ other = name := fun other => by
      rw [← getLast?_names_eq_some_iff, hlast, Option.some_inj, eq_comm]
    simp only [honly, exists_eq_left]
    by_cases habove : name = Place.above
    · rw [if_pos habove]
      exact iff_of_false nofun fun h => h.1 habove
    · rw [if_neg habove]
      exact behindLastDot_eq_some_iff.trans (and_iff_right habove).symm

end Registry

/-! ## Registrations -/

/-- **An inserted backend replaces the one with its name.** -/
theorem Backend.mem_insert_iff {b x : Backend} {backends : List Backend}
    (h : Ascending backends) : x ∈ b.insert backends ↔ x = b ∨ x ∈ backends ∧ x.name ≠ b.name := by
  induction backends with
  | nil => simp [Backend.insert]
  | cons y rest ih =>
    obtain ⟨hy, hrest⟩ := List.pairwise_cons.1 h
    rw [Backend.insert]
    split
    · rename_i heq
      have hother : ∀ x ∈ rest, x.name ≠ b.name := fun x hx hname =>
        List.lt_irrefl b.name (by simpa only [← heq, hname] using hy x hx)
      rw [List.mem_cons, List.mem_cons, or_and_right]
      refine or_congr_right ⟨fun hx => .inr ⟨hx, hother x hx⟩, ?_⟩
      rintro (⟨rfl, hne⟩ | ⟨hx, -⟩)
      · exact absurd heq.symm hne
      · exact hx
    · rename_i hne
      split
      · rename_i hlt
        have hother : ∀ x ∈ y :: rest, x.name ≠ b.name := by
          refine List.forall_mem_cons.2 ⟨fun hname => hne hname.symm, fun x hx hname => ?_⟩
          have hbelow := List.lt_trans hlt (hy x hx)
          rw [hname] at hbelow
          exact List.lt_irrefl _ hbelow
        rw [List.mem_cons]
        exact or_congr_right ⟨fun hx => ⟨hx, hother x hx⟩, And.left⟩
      · rw [List.mem_cons, List.mem_cons, ih hrest, or_and_right]
        have hself : x = y ↔ x = y ∧ x.name ≠ b.name :=
          ⟨fun hx => ⟨hx, fun hname => hne (hname ▸ hx ▸ rfl)⟩, And.left⟩
        rw [← hself, or_left_comm]

namespace Registry

/-- **A registry that has come about by some registrations**, the first one in
front. -/
inductive Registered : List Backend → Registry → Prop
  | empty : Registered [] .empty
  | standard : Registered [.markdown] .standard
  | register {history : List Backend} {r : Registry} (b : Backend) :
      Registered history r → Registered (history ++ [b]) (r.register b)

/-- A backend that no later one of its name has replaced. -/
def Current (history : List Backend) (b : Backend) : Prop :=
  ∃ before after, history = before ++ b :: after ∧ ∀ later ∈ after, later.name ≠ b.name

/-- **What a registry answers**, given what was registered. -/
structure Answers (history : List Backend) (r : Registry) : Prop where
  /-- The names ascend by their bytes, so none stands twice. -/
  ascending : r.names.Pairwise fun name later => name.utf8 < later.utf8
  mem_names : ∀ name, name ∈ r.names ↔ ∃ b ∈ history, b.name = name
  has : ∀ name, r.has name = true ↔ name ∈ r.names
  get : ∀ name b, r.get name = .ok b ↔ Current history b ∧ b.name = name
  get_unknown : ∀ name, name ∉ r.names → r.get name = .error (.unknownBackend name)
  /-- Under a name of the list stands a backend, and it renders. -/
  listed : ∀ name ∈ r.names, ∃ b, Current history b ∧ b.name = name ∧ r.get name = .ok b ∧
    r.render name = b.render
  render_unknown : ∀ name s root, name ∉ r.names →
    r.render name s root = .error (.unknownBackend name)
  detect : ∀ path name, r.detect? path = some name →
    ∃ b, Current history b ∧ b.name = name ∧
      ∃ extension ∈ b.extensions, HasExtension path extension
  detect_none : ∀ path, r.detect? path = none ↔
    ∀ extension, HasExtension path extension →
      ∀ b, Current history b → extension ∉ b.extensions

variable {r : Registry} {history : List Backend} {b : Backend} {name : Text}

theorem current_concat_iff {x : Backend} :
    Current (history ++ [b]) x ↔ x = b ∨ Current history x ∧ x.name ≠ b.name := by
  constructor
  · rintro ⟨before, after, heq, hafter⟩
    rcases List.eq_nil_or_concat' after with rfl | ⟨after, last, rfl⟩
    · exact .inl (List.head_eq_of_cons_eq (List.append_inj' heq rfl).2).symm
    · -- the later registration is the last one
      rw [← List.cons_append, ← List.append_assoc] at heq
      obtain ⟨rfl, hlast⟩ := List.append_inj' heq rfl
      obtain rfl := List.head_eq_of_cons_eq hlast
      refine .inr ⟨⟨before, after, rfl, fun later hlater => hafter later ?_⟩,
        fun hname => hafter b ?_ hname.symm⟩
      · exact List.mem_append_left _ hlater
      · exact List.mem_append_right _ List.mem_cons_self
  · rintro (rfl | ⟨⟨before, after, rfl, hafter⟩, hne⟩)
    · exact ⟨history, [], rfl, nofun⟩
    · refine ⟨before, after ++ [b], by simp, fun later hlater => ?_⟩
      rcases List.mem_append.1 hlater with hlater | hlater
      · exact hafter later hlater
      · rw [List.mem_singleton.1 hlater]
        exact hne.symm

theorem mem_register_iff {x : Backend} :
    x ∈ (r.register b).backends ↔ x = b ∨ x ∈ r.backends ∧ x.name ≠ b.name :=
  Backend.mem_insert_iff r.ascending

theorem not_current_nil : ¬ Current [] b := fun ⟨_, _, heq, _⟩ => by simp at heq

/-- **A registry holds the backends that are current.** -/
theorem mem_backends_iff (h : Registered history r) : b ∈ r.backends ↔ Current history b := by
  induction h generalizing b with
  | empty => exact iff_of_false List.not_mem_nil not_current_nil
  | standard =>
    have hempty : b ∈ Registry.empty.backends ↔ Current [] b :=
      iff_of_false List.not_mem_nil not_current_nil
    rw [standard, mem_register_iff, hempty, ← current_concat_iff, List.nil_append]
  | register x _ ih => rw [mem_register_iff, current_concat_iff, ih]

theorem eq_of_name {x : Backend} (hb : b ∈ r.backends) (hx : x ∈ r.backends)
    (h : b.name = x.name) : b = x := by
  have hnodup : (r.backends.map (·.name)).Nodup := by
    refine (List.pairwise_map.2 r.ascending).imp fun {n later} hlt heq => ?_
    exact List.lt_irrefl n (by simpa only [← heq] using hlt)
  exact List.inj_on_of_nodup_map hnodup hb hx h

theorem get?_eq_some_iff : r.get? name = some b ↔ b ∈ r.backends ∧ b.name = name := by
  rw [get?]
  constructor
  · intro h
    exact ⟨List.mem_of_find?_eq_some h, by simpa using List.find?_some h⟩
  · rintro ⟨hb, hname⟩
    cases hfind : r.backends.find? (·.name = name) with
    | none => exact absurd hname (by simpa using List.find?_eq_none.1 hfind b hb)
    | some x =>
      have hx : x.name = name := by simpa using List.find?_some hfind
      rw [eq_of_name hb (List.mem_of_find?_eq_some hfind) (hname.trans hx.symm)]

/-! ## Answers -/

theorem detect?_eq (path : Text) :
    r.detect? path = (extension? path).bind fun extension =>
      (r.backends.find? (·.extensions.contains extension)).map (·.name) := by
  simp only [detect?, Option.bind_eq_bind, Option.pure_def, Option.map_eq_bind, Function.comp_def]

/-- **What is detected** is a backend whose files are named so. -/
theorem exists_of_detect? {path : Text} (h : r.detect? path = some name) :
    ∃ b ∈ r.backends, b.name = name ∧ ∃ extension ∈ b.extensions, HasExtension path extension := by
  rw [detect?_eq] at h
  obtain ⟨extension, hextension, h⟩ := Option.bind_eq_some_iff.1 h
  obtain ⟨b, hb, hname⟩ := Option.map_eq_some_iff.1 h
  refine ⟨b, List.mem_of_find?_eq_some hb, hname, extension, ?_,
    extension?_eq_some_iff.1 hextension⟩
  simpa using List.find?_some hb

/-- **Nothing is detected** where no backend knows the extension. -/
theorem detect?_eq_none_iff {path : Text} :
    r.detect? path = none ↔
      ∀ extension, HasExtension path extension → ∀ b ∈ r.backends, extension ∉ b.extensions := by
  simp only [detect?_eq, Option.bind_eq_none_iff, Option.map_eq_none_iff, List.find?_eq_none,
    extension?_eq_some_iff, List.contains_iff_mem]

theorem mem_names_iff : name ∈ r.names ↔ ∃ b ∈ r.backends, b.name = name :=
  List.mem_map

/-- **A backend is found under its name.** -/
theorem get_eq_ok_iff : r.get name = .ok b ↔ b ∈ r.backends ∧ b.name = name := by
  rw [← get?_eq_some_iff, get]
  cases r.get? name with
  | none => exact iff_of_false nofun nofun
  | some x => rw [Except.ok.injEq, Option.some_inj]

/-- Another name is unknown. -/
theorem get_of_not_mem (h : name ∉ r.names) : r.get name = .error (.unknownBackend name) := by
  rw [get]
  cases hget : r.get? name with
  | none => rfl
  | some b => exact absurd (mem_names_iff.2 ⟨b, get?_eq_some_iff.1 hget⟩) h

/-- Of the backends of a name one is current. -/
theorem exists_current_iff :
    (∃ b, Current history b ∧ b.name = name) ↔ ∃ b ∈ history, b.name = name := by
  induction history using List.reverseRecOn with
  | nil => simp [not_current_nil]
  | append_singleton history last ih =>
    simp only [current_concat_iff, List.mem_append, List.mem_singleton]
    by_cases hname : last.name = name
    · exact iff_of_true ⟨last, .inl rfl, hname⟩ ⟨last, .inr rfl, hname⟩
    · constructor
      · rintro ⟨b, rfl | ⟨hb, -⟩, hb'⟩
        · exact absurd hb' hname
        · obtain ⟨x, hx, hx'⟩ := ih.1 ⟨b, hb, hb'⟩
          exact ⟨x, .inl hx, hx'⟩
      · rintro ⟨b, hb | rfl, hb'⟩
        · obtain ⟨x, hx, hx'⟩ := ih.2 ⟨b, hb, hb'⟩
          exact ⟨x, .inr ⟨hx, fun heq => hname (heq.symm.trans hx')⟩, hx'⟩
        · exact absurd hb' hname

theorem answers (h : Registered history r) : Answers history r where
  ascending := List.pairwise_map.2 (r.ascending.imp Text.utf8_lt_iff.2)
  mem_names name := by simp only [mem_names_iff, mem_backends_iff h, exists_current_iff]
  has name := by
    rw [has, Option.isSome_iff_exists, mem_names_iff]
    exact exists_congr fun b => get?_eq_some_iff
  get name b := by rw [get_eq_ok_iff, mem_backends_iff h]
  get_unknown name hname := get_of_not_mem hname
  listed name hname := by
    obtain ⟨b, hb, hname⟩ := mem_names_iff.1 hname
    have hget : r.get name = .ok b := get_eq_ok_iff.2 ⟨hb, hname⟩
    refine ⟨b, (mem_backends_iff h).1 hb, hname, hget, ?_⟩
    funext s root
    rw [Registry.render, hget]
    rfl
  render_unknown name s root hname := by
    rw [Registry.render, get_of_not_mem hname]
    rfl
  detect path name hdetect := by
    obtain ⟨b, hb, hextension⟩ := exists_of_detect? hdetect
    exact ⟨b, (mem_backends_iff h).1 hb, hextension⟩
  detect_none path := by simp only [detect?_eq_none_iff, mem_backends_iff h]

/-- A name is detected by the extensions that were registered for it last. -/
theorem exists_of_detect?_register {path : Text} (h : (r.register b).detect? path = some b.name) :
    ∃ extension ∈ b.extensions, HasExtension path extension := by
  obtain ⟨x, hx, hname, hextension⟩ := exists_of_detect? h
  have hb : b ∈ (r.register b).backends := mem_register_iff.2 (.inl rfl)
  rwa [eq_of_name hx hb hname] at hextension

/-- **A registry answers from the backends that were registered last under
their names**, however it has come about. Its names are those of all
registered backends, ascending by their bytes. Under each of them stands one
backend, which renders; any other name is unknown, and so is a rendering under
it. A path is detected only for a backend whose extension it has, and only
where there is none nothing is detected. So a backend that is registered again
is no longer detected by the extensions it had. -/
theorem answers_of_registered (h : Registered history r) :
    Answers history r ∧
      ∀ b path, (r.register b).detect? path = some b.name →
        ∃ extension ∈ b.extensions, HasExtension path extension :=
  ⟨answers h, fun _ _ => exists_of_detect?_register⟩

/-- A backend that renders to its name. -/
def echo (name : Text) (extensions : List Text) : Backend where
  name := name
  filetype := "txt"
  suffix := ".txt"
  extensions := extensions
  render _ _ := .ok name

/-- The standard registry, with a backend that shares an extension and with
another backend in the place of the first one. -/
def withReplaced : Registry :=
  (standard.register (echo "plain" ["md", "txt"])).register (echo "mdpp" ["adoc"])

/-- The replaced backend has left its extensions to the other one. -/
theorem answers_of_registered_withReplaced :
    Registered ([.markdown] ++ [echo "plain" ["md", "txt"]] ++ [echo "mdpp" ["adoc"]])
        withReplaced ∧
      withReplaced.names = ["mdpp".toList, "plain".toList] ∧
      withReplaced.get "mdpp" = .ok (echo "mdpp" ["adoc"]) ∧
      withReplaced.detect? "notes/guide.md/." = some "plain".toList ∧
      withReplaced.detect? "guide.mdpp" = none := by
  have hregistered := (Registered.standard.register (echo "plain" ["md", "txt"])).register
    (echo "mdpp" ["adoc"])
  obtain ⟨hanswers, -⟩ := answers_of_registered hregistered
  refine ⟨hregistered, rfl, (hanswers.get _ _).2 ⟨?_, rfl⟩, rfl, rfl⟩
  exact ⟨[.markdown, echo "plain" ["md", "txt"]], [], rfl, nofun⟩

end Registry

end Treedown

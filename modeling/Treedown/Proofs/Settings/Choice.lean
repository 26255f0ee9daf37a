import Mathlib.Data.List.Basic
import Treedown.Settings.Basic
/-!
# Settings — choices under keys

The settings as what stands under six keys. A `Choice` is a value for one of
them, and settings that take several choices hold the last one under every key
(`get_takeAll`). The tree of values of some settings keeps its form when one
value is put in the place of another, so such a change and the choice are the
same thing (`place_choice`).
-/

namespace Treedown

namespace Settings

/-! ## Keys and choices -/

/-- **A key of the settings.** -/
inductive Key
  | idPrefix
  | suffix
  | rebuildTables
  | videoWidth
  | videoHeight
  | level
  deriving DecidableEq

namespace Key

/-- What can be chosen under a key. -/
abbrev Carrier : Key → Type
  | .rebuildTables => Bool
  | .idPrefix | .suffix | .videoWidth | .videoHeight | .level => Text

/-- The names of the tables around a key, and its own name. -/
def path : Key → List Text
  | .idPrefix => ["convert", "idprefix"]
  | .suffix => ["convert", "outfilesuffix"]
  | .rebuildTables => ["convert", "tables", "multiline"]
  | .videoWidth => ["convert", "video", "width"]
  | .videoHeight => ["convert", "video", "height"]
  | .level => ["logging", "level"]

/-- The names of a key with points between them. -/
def name (k : Key) : Text :=
  ['.'].intercalate k.path

/-- What is chosen, as a value. -/
def toValue : (k : Key) → k.Carrier → Value
  | .rebuildTables, b => .boolean b
  | .idPrefix, t | .suffix, t | .videoWidth, t | .videoHeight, t | .level, t => .string t

end Key

/-- **A value for a key.** -/
structure Choice where
  key : Key
  value : key.Carrier

/-- What a choice says about a key. -/
def Choice.for? (k : Key) (c : Choice) : Option k.Carrier :=
  if h : c.key = k then some (h ▸ c.value) else none

/-- **The last of several choices for a key.** -/
def latest? (k : Key) (choices : List Choice) : Option k.Carrier :=
  (choices.filterMap (·.for? k)).getLast?

/-- What stands under a key. -/
def get (s : Settings) : (k : Key) → k.Carrier
  | .idPrefix => s.options.idPrefix
  | .suffix => s.options.suffix
  | .rebuildTables => s.options.rebuildTables
  | .videoWidth => s.options.videoWidth
  | .videoHeight => s.options.videoHeight
  | .level => s.level

/-- The settings with a choice. -/
def take (s : Settings) : Choice → Settings
  | ⟨.idPrefix, t⟩ => { s with options := { s.options with idPrefix := t } }
  | ⟨.suffix, t⟩ => { s with options := { s.options with suffix := t } }
  | ⟨.rebuildTables, b⟩ => { s with options := { s.options with rebuildTables := b } }
  | ⟨.videoWidth, t⟩ => { s with options := { s.options with videoWidth := t } }
  | ⟨.videoHeight, t⟩ => { s with options := { s.options with videoHeight := t } }
  | ⟨.level, t⟩ => { s with level := t }

/-- The settings with several choices, one after the other. -/
def takeAll (s : Settings) (choices : List Choice) : Settings :=
  choices.foldl take s

variable {s s' : Settings} {k : Key} {path : List Text} {key : Text}

/-- Settings are what stands under their keys. -/
theorem eq_of_get (h : ∀ k, s.get k = s'.get k) : s = s' := by
  obtain ⟨⟨idPrefix, suffix, rebuildTables, videoWidth, videoHeight⟩, level⟩ := s
  obtain ⟨⟨idPrefix', suffix', rebuildTables', videoWidth', videoHeight'⟩, level'⟩ := s'
  obtain rfl : idPrefix = idPrefix' := h .idPrefix
  obtain rfl : suffix = suffix' := h .suffix
  obtain rfl : rebuildTables = rebuildTables' := h .rebuildTables
  obtain rfl : videoWidth = videoWidth' := h .videoWidth
  obtain rfl : videoHeight = videoHeight' := h .videoHeight
  obtain rfl : level = level' := h .level
  rfl

/-- **A choice changes its key** and nothing else. -/
theorem get_take (s : Settings) (c : Choice) (k : Key) :
    (s.take c).get k = (c.for? k).getD (s.get k) := by
  obtain ⟨key, value⟩ := c
  cases key <;> cases k <;> rfl

theorem takeAll_append (s : Settings) (choices later : List Choice) :
    s.takeAll (choices ++ later) = (s.takeAll choices).takeAll later :=
  List.foldl_append ..

theorem latest?_append (k : Key) (choices later : List Choice) :
    latest? k (choices ++ later) = (latest? k later).or (latest? k choices) := by
  rw [latest?, List.filterMap_append, List.getLast?_append, ← latest?, ← latest?]

/-- **Of several choices for a key the last one counts.** -/
theorem get_takeAll (s : Settings) (choices : List Choice) (k : Key) :
    (s.takeAll choices).get k = (latest? k choices).getD (s.get k) := by
  induction choices generalizing s with
  | nil => rfl
  | cons c choices ih =>
    have hsplit : latest? k (c :: choices) = (latest? k choices).or (c.for? k) := by
      rw [← List.singleton_append, latest?_append, latest?, latest?]
      congr 1
      cases h : c.for? k <;> simp [h]
    rw [takeAll, List.foldl_cons, ← takeAll, ih, get_take, hsplit]
    cases latest? k choices <;> rfl

/-! ## Choices in the tree of values -/

/-- A path through tables only. -/
def throughTables (path : List Text) : List Segment :=
  path.map .key

namespace Value

theorem alter_alter (key : Text) (f g : Option Value → Value) (entries : List (Text × Value)) :
    alter key g (alter key f entries) = alter key (fun old => g (some (f old))) entries := by
  induction entries with
  | nil => rw [alter, alter, alter, if_pos rfl]
  | cons entry rest ih =>
    obtain ⟨k, v⟩ := entry
    rw [alter, alter]
    by_cases h : k = key
    · rw [if_pos h, if_pos h, alter, if_pos h]
    · rw [if_neg h, if_neg h, alter, if_neg h, ih]

/-- Where there is nothing yet, an empty table may be thought of. -/
theorem merge_getD (key : Text) (old : Option Value) (v : Value) :
    merge key (old.getD .null) v = merge key (old.getD (.table [])) v := by
  cases old with
  | some here => rfl
  | none => cases v <;> rfl

end Value

/-- **A table is put to a path entry by entry.** -/
theorem place_table_cons (v : Value) (rest : List (Text × Value)) (key : Text) (here : Value)
    (hpath : path ≠ []) :
    place (.table ((key, v) :: rest)) (throughTables path) here =
      place (.table rest) (throughTables path) (place v (throughTables (path ++ [key])) here) := by
  induction path generalizing here with
  | nil => exact absurd rfl hpath
  | cons outer path ih =>
    cases path with
    | nil =>
      simp only [throughTables, List.map_cons, List.map_nil, List.cons_append, List.nil_append,
        place, Value.merge, Value.entries, Value.alter_alter, Value.mergeAll, Option.getD_some,
        Value.merge_getD]
    | cons inner path =>
      simp only [throughTables, List.map_cons, List.cons_append, place, Value.entries,
        Value.alter_alter, Option.getD_some]
      congr 2
      funext old
      exact ih (old.getD .null) (List.cons_ne_nil inner path)

/-- The tables of the settings. -/
def tablePaths : List (List Text) :=
  [["convert"], ["convert", "tables"], ["convert", "video"], ["logging"]]

/-- A table of the settings is there already. -/
theorem place_emptyTable (s : Settings) (h : path ∈ tablePaths) :
    place (.table []) (throughTables path) s.toValue = s.toValue := by
  revert path
  simp only [tablePaths, List.forall_mem_cons]
  exact ⟨rfl, rfl, rfl, rfl, nofun⟩

/-- **A value put under a key is a choice.** -/
theorem place_choice (s : Settings) (c : Choice) :
    place (c.key.toValue c.value) (throughTables c.key.path) s.toValue = (s.take c).toValue := by
  obtain ⟨key, value⟩ := c
  cases key <;> rfl

/-- The name of a key leads to it. -/
theorem path?_name (k : Key) : path? k.name = some (throughTables k.path) := by
  cases k <;> decide +kernel

/-- **Settings are read off their tree of values.** -/
theorem decode_toValue (s : Settings) : decode s.toValue = .ok s := rfl

end Settings

end Treedown

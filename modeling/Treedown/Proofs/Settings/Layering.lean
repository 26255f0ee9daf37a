import Mathlib.Data.List.Forall2
import Treedown.Proofs.Settings.Choice
import Treedown.Settings.Layer
/-!
# Settings — layers combined key by key

A file makes choices where the tree of its values has plain values at the keys
of the settings, however the file is spelled (`Assigns`). Putting such a tree
over the tree of some settings is taking its choices (`place_of_assigns`), so
the files among the layers amount to all their choices one after the other,
and the single values to theirs after these. `load_of_asks` puts this
together: a key has the value that was chosen last, with single values before
files and files before the standard.
-/

namespace Treedown

namespace Settings

/-! ## What a file chooses -/

/-- A choice as it stands in a file. -/
def Choice.toToml : Choice → Toml.Value
  | ⟨.rebuildTables, b⟩ => .boolean b
  | ⟨.idPrefix, t⟩ | ⟨.suffix, t⟩ | ⟨.videoWidth, t⟩ | ⟨.videoHeight, t⟩ | ⟨.level, t⟩ => .string t

theorem ofToml_toToml (c : Choice) : Value.ofToml c.toToml = c.key.toValue c.value := by
  obtain ⟨key, value⟩ := c
  cases key <;> rfl

mutual

/-- **The choices that a value at a path makes**: a plain value at a key is one
choice, and a table makes those of its entries. -/
inductive Assigns : List Text → Toml.Value → List Choice → Prop
  | leaf (c : Choice) : Assigns c.key.path c.toToml [c]
  | table {path : List Text} {entries : List (Text × Toml.Value)} {choices : List Choice} :
      path ∈ tablePaths → AssignsAll path entries choices → Assigns path (.table entries) choices

/-- The choices that the entries of a table at a path make. -/
inductive AssignsAll : List Text → List (Text × Toml.Value) → List Choice → Prop
  | nil {path : List Text} : AssignsAll path [] []
  | cons {path : List Text} {key : Text} {v : Toml.Value} {rest : List (Text × Toml.Value)}
      {choices later : List Choice} :
      Assigns (path ++ [key]) v choices → AssignsAll path rest later →
        AssignsAll path ((key, v) :: rest) (choices ++ later)

end

variable {path : List Text} {v : Toml.Value} {entries : List (Text × Toml.Value)}
variable {choices : List Choice}

/-- A single entry makes its own choices. -/
theorem AssignsAll.single {key : Text} (h : Assigns (path ++ [key]) v choices) :
    AssignsAll path [(key, v)] choices := by
  rw [← List.append_nil choices]
  exact .cons h .nil

/-- A table of two entries makes the choices of both. -/
theorem AssignsAll.pair {key other : Text} {w : Toml.Value} {later : List Choice}
    (h : Assigns (path ++ [key]) v choices) (hother : Assigns (path ++ [other]) w later) :
    AssignsAll path [(key, v), (other, w)] (choices ++ later) :=
  .cons h (.single hother)

theorem ne_nil_of_mem_tablePaths (h : path ∈ tablePaths) : path ≠ [] := by
  rintro rfl
  exact absurd h (by decide)

mutual

/-- **A value from a file put to its path makes its choices.** -/
theorem place_of_assigns {path : List Text} {v : Toml.Value} {choices : List Choice}
    (h : Assigns path v choices) (s : Settings) :
    place (Value.ofToml v) (throughTables path) s.toValue = (s.takeAll choices).toValue := by
  cases h with
  | leaf c =>
    rw [ofToml_toToml, place_choice]
    rfl
  | table hpath hentries =>
    rw [Value.ofToml]
    exact place_of_assignsAll hentries hpath s

/-- So do the entries of a table, one after the other. -/
theorem place_of_assignsAll {path : List Text} {entries : List (Text × Toml.Value)}
    {choices : List Choice} (h : AssignsAll path entries choices) (hpath : path ∈ tablePaths)
    (s : Settings) :
    place (.table (Value.ofTomlEntries entries)) (throughTables path) s.toValue =
      (s.takeAll choices).toValue := by
  cases h with
  | nil =>
    rw [Value.ofTomlEntries]
    exact place_emptyTable s hpath
  | cons hfirst hrest =>
    rw [Value.ofTomlEntries, place_table_cons _ _ _ _ (ne_nil_of_mem_tablePaths hpath),
      place_of_assigns hfirst, place_of_assignsAll hrest hpath, takeAll_append]

end

/-- At the top of a file there are tables only. -/
theorem key_of_assigns {key : Text} (h : Assigns [key] v choices) :
    key = "convert" ∨ key = "logging" := by
  generalize hpath : [key] = path at h
  cases h with
  | leaf c =>
    obtain ⟨k, value⟩ := c
    cases k <;> cases hpath
  | table hmem _ =>
    subst hpath
    simpa [tablePaths] using hmem

/-- **A file over some settings** makes its choices. -/
theorem addEntries_of_assigns (s : Settings) (h : AssignsAll [] entries choices) :
    addEntries s.toValue (Value.ofTomlEntries entries) = (s.takeAll choices).toValue := by
  induction entries generalizing s choices with
  | nil =>
    cases h
    rfl
  | cons entry rest ih =>
    obtain ⟨key, v⟩ := entry
    cases h with
    | @cons _ _ _ _ choices later hfirst hrest =>
      have hkey : pathOrKey key = throughTables [key] := by
        rcases key_of_assigns hfirst with rfl | rfl <;> decide +kernel
      rw [Value.ofTomlEntries, addEntries, List.foldl_cons, ← addEntries]
      simp only [hkey]
      rw [List.nil_append] at hfirst
      rw [place_of_assigns hfirst, ih _ hrest, takeAll_append]

/-! ## What layers ask for -/

/-- **What a layer asks for**: the choices of a file, or one choice that comes
over all files. -/
inductive Request
  | file (choices : List Choice)
  | override (c : Choice)

namespace Request

/-- The choices that are made as those of a file. -/
def inFile : Request → List Choice
  | .file choices => choices
  | .override _ => []

/-- The choices that come over all files. -/
def overFiles : Request → List Choice
  | .file _ => []
  | .override c => [c]

/-- Whether something is chosen under a key. -/
def sets (r : Request) (k : Key) : Bool :=
  (latest? k r.inFile).isSome || (latest? k r.overFiles).isSome

end Request

/-- **A layer asks for something**: a file that is there and assigns values to
keys of the settings, an optional file that is missing, or a single value. -/
inductive Asks (files : Files) : Layer → Request → Prop
  | file {place t : Text} {required : Bool} {entries : List (Text × Toml.Value)}
      {choices : List Choice} :
      layerFile? files place = some (.text t) → Toml.read t = some entries →
        AssignsAll [] entries choices → Asks files (.file place required) (.file choices)
  | missing {place : Text} :
      layerFile? files place = none → Asks files (.file place false) (.file [])
  | override (c : Choice) :
      Asks files (.override c.key.name (c.key.toValue c.value)) (.override c)

/-- **What is decided for a key**: the last choice that comes over all files,
else the last one of a file, else the standard. -/
def decided (requests : List Request) (k : Key) : k.Carrier :=
  ((latest? k (requests.flatMap Request.overFiles)).or
    (latest? k (requests.flatMap Request.inFile))).getD (standard.get k)

/-- The settings that are decided, key by key. -/
def allDecided (requests : List Request) : Settings where
  options :=
    { idPrefix := decided requests .idPrefix
      suffix := decided requests .suffix
      rebuildTables := decided requests .rebuildTables
      videoWidth := decided requests .videoWidth
      videoHeight := decided requests .videoHeight }
  level := decided requests .level

theorem get_allDecided (requests : List Request) (k : Key) :
    (allDecided requests).get k = decided requests k := by
  cases k <;> rfl

/-- It is what results from the choices of the files and then the others. -/
theorem takeAll_eq_allDecided (requests : List Request) :
    (standard.takeAll (requests.flatMap Request.inFile)).takeAll
      (requests.flatMap Request.overFiles) = allDecided requests := by
  refine eq_of_get fun k => ?_
  rw [get_takeAll, get_takeAll, get_allDecided, decided]
  cases latest? k (requests.flatMap Request.overFiles) <;> rfl

section

variable {files : Files} {layers : List Layer} {requests : List Request}

/-- **The files among the layers** make their choices one after the other. -/
theorem addFiles_of_asks (h : List.Forall₂ (Asks files) layers requests) (s : Settings) :
    addFiles files s.toValue layers =
      .ok (s.takeAll (requests.flatMap Request.inFile)).toValue := by
  induction h generalizing s with
  | nil => rfl
  | @cons layer r layers requests hask _ ih =>
    rw [List.flatMap_cons, takeAll_append]
    cases hask with
    | @file place t required entries choices hfile hread hassigns =>
      have hentries : fileEntries files place required = .ok (Value.ofTomlEntries entries) := by
        rw [fileEntries, hfile]
        simp only [hread]
      rw [addFiles, hentries]
      simp only [bind, Except.bind]
      rw [addEntries_of_assigns s hassigns]
      exact ih _
    | @missing place hfile =>
      have hentries : fileEntries files place false = .ok [] := by
        rw [fileEntries, hfile]
        rfl
      rw [addFiles, hentries]
      exact ih s
    | override c => exact ih s

/-- **The single values among the layers**, with their paths. -/
theorem overrides_of_asks (h : List.Forall₂ (Asks files) layers requests) :
    overrides layers = .ok ((requests.flatMap Request.overFiles).map fun c =>
      (throughTables c.key.path, c.key.toValue c.value)) := by
  induction h with
  | nil => rfl
  | cons hask _ ih =>
    cases hask with
    | file => exact ih
    | missing => exact ih
    | override c =>
      rw [overrides, path?_name]
      simp only [ih, Except.map]
      rfl

/-- Single values put over some settings make their choices. -/
theorem foldl_place_choices (s : Settings) (choices : List Choice) :
    (choices.map fun c => (throughTables c.key.path, c.key.toValue c.value)).foldl
      (fun here x => place x.2 x.1 here) s.toValue = (s.takeAll choices).toValue := by
  induction choices generalizing s with
  | nil => rfl
  | cons c choices ih =>
    rw [List.map_cons, List.foldl_cons, place_choice, ih]
    rfl

/-- **Layers amount to what is decided by them.** -/
theorem load_of_asks (h : List.Forall₂ (Asks files) layers requests) :
    load files layers = .ok (allDecided requests) := by
  rw [load, combine, overrides_of_asks h]
  simp only [bind, Except.bind, addFiles_of_asks h, pure, Except.pure]
  rw [foldl_place_choices, takeAll_eq_allDecided, decode_toValue]

/-! ## The order of layers -/

theorem latest?_swap {f : Request → List Choice} {k : Key} {r r' : Request}
    (before after : List Request) (h : latest? k (f r) = none ∨ latest? k (f r') = none) :
    latest? k ((before ++ r' :: r :: after).flatMap f) =
      latest? k ((before ++ r :: r' :: after).flatMap f) := by
  simp only [List.flatMap_append, List.flatMap_cons, latest?_append]
  rcases h with h | h
  · rw [h, Option.or_none, Option.or_none]
  · rw [h, Option.or_none, Option.or_none]

/-- **Neighbours that set different keys can be exchanged.** -/
theorem allDecided_swap (before after : List Request) {r r' : Request}
    (h : ∀ k, (r.sets k && r'.sets k) = false) :
    allDecided (before ++ r' :: r :: after) = allDecided (before ++ r :: r' :: after) := by
  refine eq_of_get fun k => ?_
  have hk : (latest? k r.inFile = none ∧ latest? k r.overFiles = none) ∨
      (latest? k r'.inFile = none ∧ latest? k r'.overFiles = none) := by
    simpa only [Request.sets, Bool.and_eq_false_iff, Bool.or_eq_false_iff,
      Option.isSome_eq_false_iff, Option.isNone_iff_eq_none] using h k
  have hover := hk.imp And.right And.right
  have hfile := hk.imp And.left And.left
  rw [get_allDecided, get_allDecided, decided, decided, latest?_swap before after hover,
    latest?_swap before after hfile]

end

/-- **Layers are combined key by key.** Files that assign values to keys of the
settings, optional files that are missing and single values, in any order,
always amount to settings. What stands under a key, in the options and for the
log, is the last single value that was given for it, else the value in the
last file that sets it, else the standard. So two neighbours that set
different keys can be exchanged. -/
theorem load_keyByKey {files : Files} {layers : List Layer} {requests : List Request}
    (h : List.Forall₂ (Asks files) layers requests) :
    (∃ s, load files layers = .ok s ∧ (∀ k, s.get k = decided requests k) ∧
      s.options =
        { idPrefix := decided requests .idPrefix
          suffix := decided requests .suffix
          rebuildTables := decided requests .rebuildTables
          videoWidth := decided requests .videoWidth
          videoHeight := decided requests .videoHeight }) ∧
    ∀ before first second after r r', layers = before ++ first :: second :: after →
      Asks files first r → Asks files second r' → (∀ k, (r.sets k && r'.sets k) = false) →
      load files (before ++ second :: first :: after) = load files layers := by
  refine ⟨⟨_, load_of_asks h, get_allDecided requests, rfl⟩, ?_⟩
  rintro before first second after r r' rfl hfirst hsecond hapart
  have hbefore : List.Forall₂ (Asks files) before (requests.take before.length) := by
    simpa only [List.take_left] using List.forall₂_take before.length h
  have hrest : List.Forall₂ (Asks files) (first :: second :: after)
      (requests.drop before.length) := by
    simpa only [List.drop_left] using List.forall₂_drop before.length h
  obtain ⟨_, _, -, hrest, -⟩ := List.forall₂_cons_left_iff.1 hrest
  obtain ⟨_, _, -, hafter, -⟩ := List.forall₂_cons_left_iff.1 hrest
  rw [load_of_asks (List.rel_append hbefore (.cons hsecond (.cons hfirst hafter))),
    load_of_asks (List.rel_append hbefore (.cons hfirst (.cons hsecond hafter))),
    allDecided_swap _ _ hapart]

/-- Two configurations, one with headers and one with a table on one line. -/
def twoFiles : Files :=
  .ofList
    [("base.toml", .text "[convert.video]\nwidth = \"800\"\n\n[logging]\nlevel = \"debug\"\n"),
      ("own.toml", .text "convert = \x7b idprefix = 'sec-', tables.multiline = false \x7d\n")]

/-- A level in front of the files, both files, the second one without its
extension, a file that is missing, and a suffix. -/
def mixedLayers : List Layer :=
  [.override "logging.level" (.string "trace"), .file "base.toml" true, .file "mdpp.toml" false,
    .file "own" true, .override "convert.outfilesuffix" (.string ".mdx")]

/-- What they ask for. -/
def mixedRequests : List Request :=
  [.override ⟨.level, "trace".toList⟩,
    .file [⟨.videoWidth, "800".toList⟩, ⟨.level, "debug".toList⟩], .file [],
    .file [⟨.idPrefix, "sec-".toList⟩, ⟨.rebuildTables, false⟩],
    .override ⟨.suffix, ".mdx".toList⟩]

/-- The level stands though a file that sets it comes later, and the second
file leaves what the first one says about videos. -/
theorem load_keyByKey_mixedLayers :
    List.Forall₂ (Asks twoFiles) mixedLayers mixedRequests ∧
      load twoFiles mixedLayers = .ok
        { options := ⟨"sec-", ".mdx", false, "800", "360"⟩
          level := "trace" } ∧
      load twoFiles
          [.override "logging.level" (.string "trace"), .file "base.toml" true,
            .file "mdpp.toml" false, .override "convert.outfilesuffix" (.string ".mdx"),
            .file "own" true] =
        load twoFiles mixedLayers := by
  have hwidth := Assigns.leaf ⟨.videoWidth, "800".toList⟩
  have hvideo : Assigns ["convert".toList, "video".toList] (.table [("width", .string "800")])
      [⟨.videoWidth, "800".toList⟩] :=
    .table (by decide) (.single hwidth)
  have hsize : Assigns ["convert".toList]
      (.table [("video", .table [("width", .string "800")])]) [⟨.videoWidth, "800".toList⟩] :=
    .table (by decide) (.single hvideo)
  have hlevel := Assigns.leaf ⟨.level, "debug".toList⟩
  have hlogging : Assigns ["logging".toList] (.table [("level", .string "debug")])
      [⟨.level, "debug".toList⟩] :=
    .table (by decide) (.single hlevel)
  have hboth : AssignsAll [] [("convert", _), ("logging", _)] ([_] ++ [_]) := .pair hsize hlogging
  have hbase : Asks twoFiles (.file "base.toml" true)
      (.file [⟨.videoWidth, "800".toList⟩, ⟨.level, "debug".toList⟩]) :=
    .file rfl (by decide +kernel) hboth
  have hprefix := Assigns.leaf ⟨.idPrefix, "sec-".toList⟩
  have hchoice := Assigns.leaf ⟨.rebuildTables, false⟩
  have htables : Assigns ["convert".toList, "tables".toList]
      (.table [("multiline", .boolean false)]) [⟨.rebuildTables, false⟩] :=
    .table (by decide) (.single hchoice)
  have hinner : AssignsAll ["convert".toList] [("idprefix", _), ("tables", _)] ([_] ++ [_]) :=
    .pair hprefix htables
  have hconvert : Assigns ["convert".toList]
      (.table [("idprefix", .string "sec-"), ("tables", .table [("multiline", .boolean false)])])
      [⟨.idPrefix, "sec-".toList⟩, ⟨.rebuildTables, false⟩] :=
    .table (by decide) hinner
  have hown : Asks twoFiles (.file "own" true)
      (.file [⟨.idPrefix, "sec-".toList⟩, ⟨.rebuildTables, false⟩]) :=
    .file rfl (by decide +kernel) (.single hconvert)
  have hsuffix : Asks twoFiles (.override "convert.outfilesuffix" (.string ".mdx"))
      (.override ⟨.suffix, ".mdx".toList⟩) := .override ⟨.suffix, ".mdx".toList⟩
  have hasks : List.Forall₂ (Asks twoFiles) mixedLayers mixedRequests :=
    .cons (.override ⟨.level, "trace".toList⟩) (.cons hbase (.cons (.missing rfl)
      (.cons hown (.cons hsuffix .nil))))
  obtain ⟨⟨s, hload, hget, -⟩, hswap⟩ := load_keyByKey hasks
  refine ⟨hasks, hload.trans (congrArg _ (eq_of_get fun k => ?_)), ?_⟩
  · rw [hget]
    cases k <;> rfl
  · refine hswap [_, _, _] _ _ [] _ _ rfl hown hsuffix fun k => ?_
    cases k <;> rfl

end Settings

end Treedown

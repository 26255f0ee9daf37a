import Treedown.Files
import Treedown.Settings.Basic
import Treedown.Toml.Document
/-!
# Settings — layers

Settings are put together from layers: files, one after the other, and over
them single values under a key. A layer changes what it says and leaves
the rest. A file that is not there or holds no text counts as empty,
unless it is required; one that holds a text has to be a configuration.
-/

namespace Treedown

namespace Settings

/-- **A layer of settings.** -/
inductive Layer
  | file (path : Text) (required : Bool)
  /-- One value; it comes over all files. -/
  | override (key : Text) (value : Value)

/-- The path of a file with its extension added. -/
def withExtension? (path : Text) : Option Text :=
  match (Files.names path).getLast? with
  | none => none
  | some name =>
    if name = Place.above then none
    else some ((if path.head? = some '/' then ['/'] else []) ++
      ['/'].intercalate (Files.names path) ++ (".toml" : Text))

/-- The file of a layer. The extension of its name may be left out. -/
def layerFile? (files : Files) (path : Text) : Option Entry :=
  (files.file? path).or ((withExtension? path).bind files.file?)

/-- The values of a file. -/
def fileEntries (files : Files) (path : Text) (required : Bool) :
    Decoded (List (Text × Value)) :=
  match layerFile? files path with
  | none => if required then .error (.missingFile path) else .ok []
  | some (.text t) =>
    match Toml.read t with
    | some entries => .ok (Value.ofTomlEntries entries)
    | none => .error (.malformedFile path)
  | some _ => if required then .error (.unreadableFile path) else .ok []

/-- The settings with the values of a file. A key of a file may be a
path. -/
def addEntries (here : Value) (entries : List (Text × Value)) : Value :=
  entries.foldl (fun here (key, v) => place v (pathOrKey key) here) here

/-- The settings with the files among the layers. -/
def addFiles (files : Files) : Value → List Layer → Decoded Value
  | here, [] => .ok here
  | here, .file path required :: rest => do
    addFiles files (addEntries here (← fileEntries files path required)) rest
  | here, .override _ _ :: rest => addFiles files here rest

/-- The single values among the layers, with their paths. -/
def overrides : List Layer → Decoded (List (List Segment × Value))
  | [] => .ok []
  | .file _ _ :: rest => overrides rest
  | .override key v :: rest =>
    match path? key with
    | none => .error (.malformedKey key)
    | some path => (overrides rest).map ((path, v) :: ·)

/-- **The values that layers amount to.** A malformed key is found before
any file is looked at. -/
def combine (files : Files) (layers : List Layer) : Decoded Value := do
  let single ← overrides layers
  let here ← addFiles files standard.toValue layers
  return single.foldl (fun here (path, v) => place v path here) here

/-- **The settings that layers amount to.** -/
def load (files : Files) (layers : List Layer) : Decoded Settings := do
  decode (← combine files layers)

end Settings

end Treedown

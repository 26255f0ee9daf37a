import Treedown.Text.Utf8
/-!
# Files

The files that a run can see, as a value: a row of paths with what stands
there. Folders need not be listed when something stands below them.
Reading and writing look a path up component by component (`look`), so
that every way a path can be wrong has its own cause. A write changes one
place and nothing else.
-/

namespace Treedown

/-- **What stands at a path.** -/
inductive Entry
  | folder
  /-- A file that holds a text. -/
  | text (t : Text)
  /-- A file whose bytes are no text. -/
  | bytes (raw : List UInt8)
  deriving DecidableEq

/-- A file with some bytes. -/
def Entry.ofBytes (raw : List UInt8) : Entry :=
  match Text.ofUtf8? raw with
  | some t => .text t
  | none => .bytes raw

/-- **Why a file cannot be read or written.** -/
inductive FileError
  | notFound
  | isFolder
  | notFolder
  | notText
  deriving DecidableEq, Repr

/-- The wording of a cause. -/
def FileError.message : FileError → Text
  | .notFound => "No such file or directory (os error 2)"
  | .isFolder => "Is a directory (os error 21)"
  | .notFolder => "Not a directory (os error 20)"
  | .notText => "stream did not contain valid UTF-8"

/-- A place: the names on the way to it from the working folder. A slash in
front stands for the topmost folder, and two dots for a folder that the
working folder is in. -/
abbrev Place := List Text

namespace Place

/-- The name of the folder around. -/
def above : Text := ".."

/-- The place around a place. -/
def up (place : Place) : Place :=
  match place.getLast? with
  | none => [above]
  | some name =>
    if name = above then place ++ [above]
    else if name = ['/'] then place
    else place.dropLast

/-- Whether there is a folder at a place in any case: the working folder,
those that it is in, and the topmost one. -/
def isGiven (place : Place) : Bool :=
  place.all (· = above) || place = [['/']]

end Place

/-- **The files that a run can see.** -/
structure Files where
  entries : List (Place × Entry)

namespace Files

/-- No files. -/
def empty : Files := ⟨[]⟩

/-- The file or folder at a place. A place is also a folder when something
stands below it. -/
def at? (files : Files) (place : Place) : Option Entry :=
  match files.entries.lookup place with
  | some entry => some entry
  | none =>
    if place.isGiven || files.entries.any (fun e => place.isPrefixOf e.1) then some .folder
    else none

/-- The names on a path; a single dot names nothing. -/
def names (path : Text) : List Text :=
  (path.splitOn '/').filter fun name => !name.isEmpty && name ≠ ['.']

/-- Where a path starts from. -/
def origin (path : Text) : Place :=
  if path.head? = some '/' then [['/']] else []

/-- Whether a path can only mean a folder: it ends in a slash or a dot. -/
def meansFolder (path : Text) : Bool :=
  match (path.splitOn '/').getLast? with
  | some name => name.isEmpty || name = ['.'] || name = Place.above
  | none => true

/-- The place that names lead to from a place, provided that every place
on the way is a folder. -/
def walk (files : Files) : Place → List Text → Except FileError Place
  | here, [] => .ok here
  | here, name :: rest =>
    match files.at? here with
    | none => .error .notFound
    | some .folder =>
      if name = Place.above then walk files here.up rest else walk files (here ++ [name]) rest
    | some _ => .error .notFolder

/-- **The place of a path and what stands there**; nothing may stand there
yet, but the folder around it exists. -/
def look (files : Files) (path : Text) : Except FileError (Place × Option Entry) := do
  if path.isEmpty then throw .notFound
  let place ← files.walk (origin path) (names path)
  match files.at? place with
  | some (.text t) => if meansFolder path then throw .notFolder else return (place, some (.text t))
  | some (.bytes raw) =>
    if meansFolder path then throw .notFolder else return (place, some (.bytes raw))
  | some .folder => return (place, some .folder)
  | none => return (place, none)

/-- **The text of the file at a path.** -/
def readText (files : Files) (path : Text) : Except FileError Text := do
  match (← files.look path).2 with
  | none => throw .notFound
  | some .folder => throw .isFolder
  | some (.bytes _) => throw .notText
  | some (.text t) => return t

/-- What stands at a path if it is a file. -/
def file? (files : Files) (path : Text) : Option Entry :=
  match files.look path with
  | .ok (_, some .folder) => none
  | .ok (_, entry) => entry
  | .error _ => none

/-- The files with an entry at a place. -/
def put (files : Files) (place : Place) (entry : Entry) : Files :=
  ⟨files.entries.filter (fun e => e.1 ≠ place) ++ [(place, entry)]⟩

/-- **The files after a text was written to a path.** -/
def writeText (files : Files) (path : Text) (t : Text) : Except FileError Files := do
  match ← files.look path with
  | (_, some .folder) => throw .isFolder
  | (place, some _) => return files.put place (.text t)
  | (place, none) =>
    if meansFolder path then throw .isFolder
    return files.put place (.text t)

/-- The files from a row of paths; of two entries at one place the later
one stands. -/
def ofList (entries : List (Text × Entry)) : Files :=
  entries.foldl (fun files e => files.put (origin e.1 ++ names e.1) e.2) empty

end Files

end Treedown

import Treedown.Options
import Treedown.Settings.Value
/-!
# Settings

The options of the rendering and the level of the log, as they come out of
a tree of values. Numbers and truth values may stand for texts, and numbers
and some words for truth values. A record may be written as a list of its
fields in their order.
-/

namespace Treedown

/-- **The settings of a run.** -/
structure Settings where
  options : Options
  /-- What is logged, unless the run is told otherwise. -/
  level : Text
  deriving DecidableEq

namespace Settings

/-- The settings where nobody chooses. -/
def standard : Settings where
  options := .standard
  level := "warn"

/-- A record among the settings: its name and its fields. -/
structure Shape where
  name : Text
  fields : List Text
  deriving DecidableEq

/-- **Why there are no settings.** -/
inductive Fault
  /-- A key that is no path. -/
  | malformedKey (key : Text)
  | missingFile (path : Text)
  /-- A file that holds no text. -/
  | unreadableFile (path : Text)
  | malformedFile (path : Text)
  /-- A value of the wrong type under a key. -/
  | wrongType (key found expected : Text)
  /-- A value in the place of a record. -/
  | wrongShape (found : Text) (shape : Shape)
  /-- A list in the place of a record that has too few items. -/
  | wrongLength (length : Nat) (shape : Shape)
  | missingField (field : Text)
  deriving DecidableEq

/-- **The wording of a fault.** -/
def Fault.message : Fault → Text
  | .malformedKey key => ("malformed key '" : Text) ++ key ++ ("'" : Text)
  | .missingFile path => ("configuration file \"" : Text) ++ path ++ ("\" not found" : Text)
  | .unreadableFile path =>
    ("configuration file \"" : Text) ++ path ++ ("\" holds no text" : Text)
  | .malformedFile path => ("malformed configuration file '" : Text) ++ path ++ ("'" : Text)
  | .wrongType key found expected =>
    ("invalid type: " : Text) ++ found ++ (", expected " : Text) ++ expected ++
      (" for key `" : Text) ++ key ++ ("`" : Text)
  | .wrongShape found shape =>
    ("invalid type: " : Text) ++ found ++ (", expected struct " : Text) ++ shape.name
  | .wrongLength length shape =>
    ("invalid length " : Text) ++ Text.ofNat length ++ (", expected struct " : Text) ++
      shape.name ++ (" with " : Text) ++ Text.ofNat shape.fields.length ++
      (if shape.fields.length = 1 then " element" else " elements" : Text)
  | .missingField field => ("missing field `" : Text) ++ field ++ ("`" : Text)

/-- The fault seen from around a key. A place in a list follows the key
without a point. -/
def Fault.within (segment : Text) : Fault → Fault
  | .wrongType key found expected =>
    let point : Text := if key.isEmpty || key.head? = some '[' then [] else ['.']
    .wrongType (segment ++ point ++ key) found expected
  | fault => fault

/-- What a decoder of settings comes to. -/
abbrev Decoded (α : Type) := Except Fault α

/-! ## Plain values -/

/-- A whole number in decimal digits. -/
def spellInt (n : Int) : Text :=
  (if n < 0 then ['-'] else []) ++ Text.ofNat n.natAbs

/-- How a number is written where a text is wanted. -/
def plainNumber : Spelling := ⟨none, false⟩

/-- How a number is written in a message. -/
def pointedNumber : Spelling := ⟨none, true⟩

/-- What a value is called in a message. -/
def Value.describe : Value → Text
  | .null => "unit value"
  | .boolean b => ("boolean `" : Text) ++ (if b then "true" else "false" : Text) ++ ("`" : Text)
  | .integer n => ("integer `" : Text) ++ spellInt n ++ ("`" : Text)
  | .float x => ("floating point `" : Text) ++ x.write pointedNumber ++ ("`" : Text)
  | .string s => ("string " : Text) ++ s.quoted
  | .list _ => "sequence"
  | .table _ => "map"

/-- A text; plain values stand for how they are written. -/
def Value.asText : Value → Decoded Text
  | .string s => .ok s
  | .boolean b => .ok (if b then "true" else "false")
  | .integer n => .ok (spellInt n)
  | .float x => .ok (x.write plainNumber)
  | v => .error (.wrongType [] v.describe "a string")

/-- Whether a word means yes. -/
def isYes (s : Text) : Bool :=
  ["1", "true", "on", "yes"].any (·.toList == s)

/-- Whether a word means no. -/
def isNo (s : Text) : Bool :=
  ["0", "false", "off", "no"].any (·.toList == s)

/-- A truth value; a number is true unless it is zero. -/
def Value.asBool : Value → Decoded Bool
  | .boolean b => .ok b
  | .integer n => .ok (n ≠ 0)
  | .float x => .ok !x.isZero
  | .string s =>
    if isYes s.lower then .ok true
    else if isNo s.lower then .ok false
    else .error (.wrongType [] (Value.string s.lower).describe "a boolean")
  | v => .error (.wrongType [] v.describe "a boolean")

/-! ## Records -/

/-- The fields of a record that are there, each with what it is called in a
key, and the fault of the first one that is not. -/
structure Parts where
  fields : List (Text × Text × Value)
  absent : Fault

/-- The first of the fields that a table has not. -/
def firstAbsent (entries : List (Text × Value)) (fields : List Text) : Text :=
  (fields.find? fun field => (entries.lookup field).isNone).getD []

/-- The parts of a value that is a record. -/
def Value.parts (shape : Shape) : Value → Decoded Parts
  | .table entries =>
    .ok
      { fields := shape.fields.filterMap fun field =>
          (entries.lookup field).map fun v => (field, field, v)
        absent := .missingField (firstAbsent entries shape.fields) }
  | .list items =>
    .ok
      { fields := (shape.fields.zip items).zipIdx.map fun ((field, v), i) =>
          (field, '[' :: Text.ofNat i ++ [']'], v)
        absent := .wrongLength items.length shape }
  | v => .error (.wrongShape v.describe shape)

/-- A field of a record, if it is there. -/
def Parts.get? {α : Type} (p : Parts) (field : Text) (decode : Value → Decoded α) :
    Decoded (Option α) :=
  match p.fields.lookup field with
  | none => .ok none
  | some (segment, v) => ((decode v).map some).mapError (Fault.within segment)

/-- A record made of its fields, which must all be there. -/
def Parts.need {α : Type} (p : Parts) : Option α → Decoded α
  | some x => .ok x
  | none => .error p.absent

/-- What is set for tables. -/
def tables : Shape := ⟨"TablesConfig", ["multiline"]⟩

/-- What is set for videos. -/
def video : Shape := ⟨"VideoConfig", ["width", "height"]⟩

/-- What is set for the rendering. -/
def convert : Shape := ⟨"ConvertConfig", ["idprefix", "outfilesuffix", "tables", "video"]⟩

/-- What is set for the log. -/
def logging : Shape := ⟨"LoggingConfig", ["level"]⟩

/-- All that is set. -/
def whole : Shape := ⟨"MdppConfig", ["convert", "logging"]⟩

/-- Whether tables are rebuilt. -/
def decodeTables (v : Value) : Decoded Bool := do
  let p ← v.parts tables
  p.need (← p.get? "multiline" Value.asBool)

/-- The width and the height of a video. -/
def decodeVideo (v : Value) : Decoded (Text × Text) := do
  let p ← v.parts video
  let width ← p.get? "width" Value.asText
  let height ← p.get? "height" Value.asText
  return (← p.need width, ← p.need height)

/-- The options of the rendering. -/
def decodeOptions (v : Value) : Decoded Options := do
  let p ← v.parts convert
  let idPrefix ← p.get? "idprefix" Value.asText
  let suffix ← p.get? "outfilesuffix" Value.asText
  let rebuild ← p.get? "tables" decodeTables
  let size ← p.get? "video" decodeVideo
  let idPrefix ← p.need idPrefix
  let suffix ← p.need suffix
  let rebuild ← p.need rebuild
  let size ← p.need size
  return ⟨idPrefix, suffix, rebuild, size.1, size.2⟩

/-- The level of the log. -/
def decodeLevel (v : Value) : Decoded Text := do
  let p ← v.parts logging
  p.need (← p.get? "level" Value.asText)

/-- **The settings that a tree of values holds.** -/
def decode (v : Value) : Decoded Settings := do
  let p ← v.parts whole
  let options ← p.get? "convert" decodeOptions
  let level ← p.get? "logging" decodeLevel
  return ⟨← p.need options, ← p.need level⟩

/-- **The tree of values that holds some settings.** -/
def toValue (s : Settings) : Value :=
  .table
    [("convert", .table
        [("idprefix", .string s.options.idPrefix), ("outfilesuffix", .string s.options.suffix),
          ("tables", .table [("multiline", .boolean s.options.rebuildTables)]),
          ("video", .table
            [("width", .string s.options.videoWidth),
              ("height", .string s.options.videoHeight)])]),
      ("logging", .table [("level", .string s.level)])]

end Settings

end Treedown

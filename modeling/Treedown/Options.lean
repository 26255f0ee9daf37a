import Treedown.Node.Decode
/-!
# Options of the rendering
-/

namespace Treedown

/-- **What a user may choose about the output.** -/
structure Options where
  /-- What generated identifiers start with, unless the document says
  otherwise. -/
  idPrefix : Text
  /-- The suffix that the targets of includes are given. -/
  suffix : Text
  /-- Whether two-column tables are rebuilt from their source text. -/
  rebuildTables : Bool
  /-- The size of a video that has none. -/
  videoWidth : Text
  videoHeight : Text
  deriving DecidableEq

namespace Options

/-- The choices made where nobody chooses. -/
def standard : Options where
  idPrefix := "_"
  suffix := ".md"
  rebuildTables := true
  videoWidth := "640"
  videoHeight := "360"

instance : Inhabited Options := ⟨standard⟩

/-- The JSON form of options. -/
def toJson (o : Options) : Json :=
  .object
    [("idprefix", .string o.idPrefix), ("outfilesuffix", .string o.suffix),
      ("multiline_tables", .bool o.rebuildTables), ("video_width", .string o.videoWidth),
      ("video_height", .string o.videoHeight)]

/-- The fields of options; all of them must be there. -/
def layout : Json.Reading.Fields where
  name := "ConvertOptions"
  fields :=
    [("idprefix", true), ("outfilesuffix", true), ("multiline_tables", true),
      ("video_width", true), ("video_height", true)]

/-- The options with one field read. -/
def store (o : Options) (field : Text) (r : Json.Reading) : Json.Decoded Options :=
  if field = "idprefix".toList then do return { o with idPrefix := ← r.asString }
  else if field = "outfilesuffix".toList then do return { o with suffix := ← r.asString }
  else if field = "multiline_tables".toList then do return { o with rebuildTables := ← r.asBool }
  else if field = "video_width".toList then do return { o with videoWidth := ← r.asString }
  else do return { o with videoHeight := ← r.asString }

/-- Options from a JSON text. -/
def decode (s : Text) : Json.Decoded Options :=
  Json.decode (fun room r =>
    Json.Reading.record layout (fun _ => store) Json.Reading.skip standard room r.parts) s

end Options

end Treedown

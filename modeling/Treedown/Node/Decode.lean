import Treedown.Json.Decode
import Treedown.Node.Encode
/-!
# Nodes — read from JSON

How a tree, a grid and attributes are read from a JSON text. An attribute
whose value is no text takes the JSON text of its value, and one whose
value is `null` is empty.
-/

namespace Treedown

open Json (Decoded Reading Flaw)

namespace Attributes

/-- The text that an attribute's value stands for. -/
def textOf : Json → Text
  | .string s => s
  | .null => []
  | value => value.print

/-- The entries of an object written one after the other. -/
def ofMembers (room : Nat) : Attributes → List (Json.Key × Reading) → Decoded Attributes
  | done, [] => .ok done
  | done, (key, value) :: rest => do
    let key ← key.mapError .flaw
    let value ← value.asJson room
    ofMembers room (done.set key (textOf value)) rest

/-- Attributes from an object of names and values. -/
def ofReading (room : Nat) : Reading → Decoded Attributes
  | .object members halt =>
    match room with
    | 0 => .error (.flaw .malformed)
    | room + 1 => do
      let done ← ofMembers room .empty members
      Reading.ended halt
      return done
  | r => .error (r.mismatch "a map of attribute names to values")

end Attributes

namespace Origin

/-- The fields of an origin. -/
def layout : Reading.Fields where
  name := "TableSource"
  fields := [("path", false), ("line", false), ("lines", false)]

/-- The origin with one field read. -/
def store (room : Nat) (o : Origin) (field : Text) (r : Reading) : Decoded Origin :=
  if field = "path".toList then do
    return { o with path := ← r.asOption (Reading.asText "path string") }
  else if field = "line".toList then do
    return { o with line := ← r.asOption Reading.asCount }
  else do
    return { o with lines := ← r.asOption (Reading.asList (fun _ => Reading.asString) room) }

/-- An origin from a record. -/
def ofReading (room : Nat) (r : Reading) : Decoded Origin :=
  Reading.record layout store Reading.skip .empty room r.parts

end Origin

namespace Grid

/-- The fields of a grid. -/
def layout : Reading.Fields where
  name := "TableData"
  fields := [("header", false), ("rows", false), ("columns", false), ("source", false)]

/-- A list of texts. -/
def cells (room : Nat) : Reading → Decoded (List Text) :=
  Reading.asList (fun _ => Reading.asString) room

/-- The grid with one field read. -/
def store (room : Nat) (g : Grid) (field : Text) (r : Reading) : Decoded Grid :=
  if field = "header".toList then do
    return { g with header := ← r.asOption (cells room) }
  else if field = "rows".toList then do
    return { g with rows := ← r.asList cells room }
  else if field = "columns".toList then do
    return { g with columns := ← r.asOption Reading.asCount }
  else do
    return { g with source := ← r.asOption (Origin.ofReading room) }

/-- **A grid from a record.** -/
def ofReading (room : Nat) (r : Reading) : Decoded Grid :=
  Reading.record layout store Reading.skip .empty room r.parts

/-- A grid from a JSON text. -/
def decode (s : Text) : Decoded Grid :=
  Json.decode ofReading s

end Grid

namespace Node

/-- The fields of a node. -/
def layout : Reading.Fields where
  name := "RawNode"
  fields :=
    [("kind", true), ("id", false), ("title", false), ("text", false), ("lines", false),
      ("level", false), ("target", false), ("type", false), ("caption", false),
      ("attributes", false), ("children", false), ("table", false)]

/-- A node of which some fields have been read. -/
structure Draft where
  kind : Option Kind
  fields : Fields
  children : List Node

/-- A node of which nothing has been read. -/
def Draft.empty : Draft := ⟨none, .empty, []⟩

/-- The node that a draft has become. A record without a kind is refused
before. -/
def Draft.toNode (d : Draft) : Node :=
  .mk (d.kind.getD (.known .text)) d.fields d.children

/-- A reading, and the decoder that reads it as a list of trees. -/
structure Part where
  reading : Reading
  trees : Nat → Decoded (List Node)

/-- The draft with one field read. -/
def store (room : Nat) (d : Draft) (field : Text) (part : Part) : Decoded Draft :=
  let r := part.reading
  let text := r.asOption Reading.asString
  let put (f : Fields) : Draft := { d with fields := f }
  if field = "kind".toList then do
    return { d with kind := some (.ofName (← r.asString)) }
  else if field = "id".toList then do return put { d.fields with id := ← text }
  else if field = "title".toList then do return put { d.fields with title := ← text }
  else if field = "text".toList then do return put { d.fields with text := ← text }
  else if field = "lines".toList then do return put { d.fields with lines := ← Grid.cells room r }
  else if field = "level".toList then do return put { d.fields with level := ← r.asCount }
  else if field = "target".toList then do return put { d.fields with target := ← text }
  else if field = "type".toList then do return put { d.fields with subtype := ← text }
  else if field = "caption".toList then do return put { d.fields with caption := ← text }
  else if field = "attributes".toList then do
    return put { d.fields with attributes := ← Attributes.ofReading room r }
  else if field = "children".toList then do return { d with children := ← part.trees room }
  else do return put { d.fields with grid := ← r.asOption (Grid.ofReading room) }

/-- A node from the parts of its record. -/
def ofParts (parts : Reading.Parts Part) (room : Nat) : Decoded Node :=
  (Reading.record layout store (fun part => part.reading.skip) .empty room parts).map
    Draft.toNode

mutual

/-- **A tree from a record.** -/
def ofReading : Reading → Nat → Decoded Node
  | .object members halt => ofParts (.members (memberParts members) halt)
  | .list items halt => ofParts (.items (itemParts items) halt)
  | r => ofParts (.neither r)

/-- Trees from a list of records. -/
def allOfReading : Reading → Nat → Decoded (List Node)
  | .list items halt => fun room =>
    match room with
    | 0 => .error (.flaw .malformed)
    | room + 1 => Reading.inOrder halt ((decoders items).map (· room))
  | r => fun _ => .error (r.mismatch "a sequence")

/-- The decoders of several trees. -/
def decoders : List Reading → List (Nat → Decoded Node)
  | [] => []
  | r :: rest => ofReading r :: decoders rest

/-- Items, each with its decoder. -/
def itemParts : List Reading → List Part
  | [] => []
  | r :: rest => ⟨r, allOfReading r⟩ :: itemParts rest

/-- Members, each with the decoder of its value. -/
def memberParts : List (Json.Key × Reading) → List (Json.Key × Part)
  | [] => []
  | (key, r) :: rest => (key, ⟨r, allOfReading r⟩) :: memberParts rest

end

/-- **A tree from a JSON text.** -/
def decode (s : Text) : Decoded Node :=
  Json.decode (fun room r => ofReading r room) s

end Node

/-- Attributes from a JSON text. -/
def Attributes.decode (s : Text) : Decoded Attributes :=
  Json.decode Attributes.ofReading s

end Treedown

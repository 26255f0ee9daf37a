import Treedown.Json.Value
import Treedown.Node.Basic
/-!
# Nodes — written as JSON

The JSON form of a tree: fields in a fixed order, a node's kind and level
always, its other fields only where they hold something. Grids and their
origins are written with all their fields.
-/

namespace Treedown

/-- A list of texts. -/
def Json.texts (ts : List Text) : Json :=
  .list (ts.map .string)

/-- A value that may be absent. -/
def Json.option {α : Type} (encode : α → Json) : Option α → Json
  | some x => encode x
  | none => .null

/-- A whole number. -/
def Json.count (n : UInt64) : Json :=
  .number (.natural n.toNat)

/-- A member. -/
def Json.member (key : Text) (value : Json) : List (Text × Json) :=
  [(key, value)]

/-- A member that is left out where its value is absent. -/
def Json.member? {α : Type} (key : Text) (encode : α → Json) : Option α → List (Text × Json)
  | some x => [(key, encode x)]
  | none => []

/-- A member that is left out where its list is empty. -/
def Json.nonEmptyMember {α : Type} (key : Text) (encode : List α → Json) :
    List α → List (Text × Json)
  | [] => []
  | xs => [(key, encode xs)]

namespace Attributes

/-- The entries as the members of an object. -/
def encodeEntries (entries : List (Text × Text)) : Json :=
  .object (entries.map fun (key, value) => (key, .string value))

/-- The JSON form of attributes. -/
def toJson (a : Attributes) : Json :=
  encodeEntries a.entries

end Attributes

/-- The JSON form of an origin. -/
def Origin.toJson (o : Origin) : Json :=
  .object
    [("path", .option .string o.path), ("line", .option .count o.line),
      ("lines", .option .texts o.lines)]

/-- The JSON form of a grid. -/
def Grid.toJson (g : Grid) : Json :=
  .object
    [("header", .option .texts g.header), ("rows", .list (g.rows.map .texts)),
      ("columns", .option .count g.columns), ("source", .option Origin.toJson g.source)]

namespace Node

/-- The members of a node, given those of its children. -/
def members (kind : Kind) (fields : Fields) (children : List Json) : List (Text × Json) :=
  Json.member "kind" (.string kind.name) ++
    Json.member? "id" .string fields.id ++
    Json.member? "title" .string fields.title ++
    Json.member? "text" .string fields.text ++
    Json.nonEmptyMember "lines" .texts fields.lines ++
    Json.member "level" (.count fields.level) ++
    Json.member? "target" .string fields.target ++
    Json.member? "type" .string fields.subtype ++
    Json.member? "caption" .string fields.caption ++
    Json.nonEmptyMember "attributes" Attributes.encodeEntries fields.attributes.entries ++
    Json.nonEmptyMember "children" .list children ++
    Json.member? "table" Grid.toJson fields.grid

mutual

/-- **The JSON form of a tree.** -/
def toJson : Node → Json
  | .mk kind fields children => .object (members kind fields (toJsonAll children))

/-- The JSON forms of several trees. -/
def toJsonAll : List Node → List Json
  | [] => []
  | node :: rest => toJson node :: toJsonAll rest

end

/-- The JSON text of a tree. -/
def encode (n : Node) : Text :=
  n.toJson.print

end Node

end Treedown

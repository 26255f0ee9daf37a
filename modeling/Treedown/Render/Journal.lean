import Treedown.Log
import Treedown.Render.Visit
/-!
# Rendering — its journal

What a rendering reports: each node that it visits, each kind without a
rule, and why a table was laid out from its cells. It ends with the first
malformed node.
-/

namespace Treedown

namespace Render

open Log

/-- The part of the program that renders, as it is called in the log. -/
def converterSource : Text := "mdpp_convert::converter"

/-- The part that renders tables. -/
def tableSource : Text := "mdpp_convert::converter::table"

/-- The record of a visit. -/
def visitRecord (v : Visit) : Record where
  level := .trace
  source := converterSource
  message := "convert"
  fields := [("kind", v.kind.name), ("node", Text.ofNat v.index)]

/-- The record of a kind without a rule. -/
def placeholderRecord (name : Text) : Record where
  level := .warn
  source := converterSource
  message := "no rule for node kind, emitting placeholder"
  fields := [("kind", name)]

/-- The record of a table that is laid out from its cells. -/
def layoutRecord : Table.Reason → Record
  | .columns n =>
    ⟨.debug, tableSource, "cell layout: not a two-column table", [("columns", Text.ofNat n)]⟩
  | .disabled => ⟨.debug, tableSource, "cell layout: multiline tables disabled", []⟩
  | .noSource => ⟨.debug, tableSource, "cell layout: table has no source reference", []⟩
  | .unusable fault =>
    ⟨.debug, tableSource, "cell layout: table source unusable", [("error", fault.message)]⟩
  | .noEntries => ⟨.debug, tableSource, "cell layout: table source holds no rows", []⟩

/-- What a visit reports after its own record. -/
def detailRecords (s : Setting) (v : Visit) : List Record :=
  if v.defect?.isSome then []
  else match v.kind with
    | .other name _ => [placeholderRecord name]
    | .known .table =>
      match tableLayout s v.fields with
      | .ok _ => []
      | .error reason => [layoutRecord reason]
    | _ => []

/-- **The journal of the rendering of a document.** -/
def journal (s : Setting) (root : Node) : List Record :=
  (untilDefect (visitsOf root)).flatMap fun v => visitRecord v :: detailRecords s v

end Render

end Treedown

import Treedown.Include
import Treedown.Outline.Render
/-!
# Failures, and reading from files

What can go wrong between a file with a tree in it and its rendering, with
the wording of each failure, and the operations that go that way: reading
a tree from a file, rendering a tree given as a JSON text, and replacing
the includes of a source file.
-/

namespace Treedown

/-- **Why a document cannot be loaded or rendered.** -/
inductive Failure
  | malformed (m : Render.Malformed)
  | unknownBackend (name : Text)
  | invalidTree (fault : Json.Fault)
  | unreadable (path : Text) (cause : FileError)

/-- The wording of a fault in a JSON text. -/
def Json.Fault.describe (fault : Json.Fault) : Text :=
  match fault with
  | .flaw .truncated => "the text ends too early"
  | fault => fault.message.getD "the text is malformed"

/-- **The wording of a failure.** -/
def Failure.message : Failure → Text
  | .malformed m => m.message
  | .unknownBackend name => ("backend '" : Text) ++ name ++ ("' not found" : Text)
  | .invalidTree fault => ("invalid document tree: " : Text) ++ fault.describe
  | .unreadable path cause =>
    ("failed to read '" : Text) ++ path ++ ("': " : Text) ++ cause.message

/-- The tree that a JSON text holds. -/
def Node.ofJson (t : Text) : Except Failure Node :=
  (Node.decode t).mapError .invalidTree

namespace Files

/-- The text of a file, or the failure to read it. -/
def load (files : Files) (path : Text) : Except Failure Text :=
  (files.readText path).mapError (.unreadable path)

/-- **The tree in a file.** -/
def loadTree (files : Files) (path : Text) : Except Failure Node := do
  Node.ofJson (← files.load path)

end Files

/-- **A tree given as a JSON text, rendered.** -/
def Render.renderJson (s : Setting) (t : Text) : Except Failure Text := do
  (renderTree s (← Node.ofJson t)).mapError .malformed

/-- The source in a file with its include directives replaced. -/
def Include.substituteFile (files : Files) (suffix path : Text) : Except Failure Text := do
  return substitute suffix (← files.load path)

end Treedown

import Treedown.CommandLine.Run
/-!
# The program

The program itself: it looks at the files that a run may need, does the run
and carries out what it comes to.
-/

namespace Treedown

namespace Main

/-- The number of the error that says that a path is a folder. -/
def folderCode : UInt32 := 21

/-- What stands at a path. -/
def observe (path : Text) : IO (List (Text × Entry)) := do
  try
    let bytes ← IO.FS.readBinFile (String.ofList path)
    return [(path, .ofBytes bytes.toList)]
  catch e =>
    match e with
    | .inappropriateType _ code _ => return if code = folderCode then [(path, .folder)] else []
    | _ => return []

/-- The folders on the way to a path, and the path. -/
def approaches (path : Text) : List Text :=
  let names := path.splitOn '/'
  ((List.range names.length).map fun n => ['/'].intercalate (names.take (n + 1))).filter
    (!·.isEmpty)

/-- The files at some paths. -/
def observeAll (paths : List Text) : IO Files := do
  let found ← (paths.flatMap approaches).eraseDups.mapM observe
  return .ofList found.flatten

/-- What a run comes to, carried out. -/
def carryOut (r : CommandLine.Run) : IO UInt32 := do
  for record in r.log do
    IO.eprintln (String.ofList record.line)
  if let .wrote path t := r.ending then
    IO.FS.writeFile (String.ofList path) (String.ofList t)
  IO.print (String.ofList r.ending.stdout)
  IO.eprint (String.ofList r.ending.stderr)
  return r.ending.code.toUInt32

end Main

end Treedown

open Treedown in
/-- The program. -/
def main (args : List String) : IO UInt32 := do
  let args : List Text := "mdpp" :: args.map String.toList
  let environment := (← IO.getEnv "RUST_LOG").map String.toList
  let known ← Main.observeAll (CommandLine.paths .empty args)
  let files ← Main.observeAll (CommandLine.paths known args)
  Main.carryOut (CommandLine.run files environment args)

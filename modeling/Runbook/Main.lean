import Runbook.CommandLine.Run
import Runbook.Document.Tree

set_option autoImplicit false

/-! # The command line

The program itself: it reads the variables and the files that a run looks at, lets the run
decide, and prints what the run shows. It starts no process; a run that gets as far as that ends
with the fault that its process could not be started, so what it is of use for is listing recipes
and printing the lines of a recipe.
-/

namespace Runbook

/-- The variables that a run reads. -/
def variableNames : List String :=
  ["HOME", "RUNNER_FILE", "RUNNER_SHELL", "RUNNER_ECHO", "RUNNER_LOG_LEVEL"]

/-- The values of the variables that are set. -/
def readEnvironment : IO (List (Text × Text)) :=
  variableNames.filterMapM fun name => do
    return (← IO.getEnv name).map fun value => (name.toList, value.toList)

/-- The world with those of the files that can be read. -/
def World.readFiles (w : World) (files : List Path) : IO World := do
  let mut tree := w.tree
  for file in files do
    if let .ok bytes ← (IO.FS.readBinFile file.toString).toBaseIO then
      tree := tree.addFile (Path.resolve w.cwd file).parts bytes.toList
  return { w with tree }

/-- The world that the words of a command line are about: first the settings file is read, then
the recipe file that the settings lead to. -/
def readWorld (words : List Text) : IO World := do
  let cwd := Path.ofText (← IO.currentDir).toString.toList
  let w : World := {
    tree := FileTree.empty.makeDirectories cwd.parts
    cwd
    environment := ← readEnvironment }
  let w ← w.readFiles (w.consulted Document.read words)
  w.readFiles (w.consulted Document.read words)

/-- Prints what a run shows. -/
def Shown.print : Shown → IO Unit
  | .out t => IO.println (String.ofList t)
  | .err t => IO.eprintln (String.ofList t)
  | .report message => IO.eprintln ("error: " ++ message)
  | .act _ => return ()

end Runbook

open Runbook

/-- Runs the command line and ends with its exit status. -/
def main (arguments : List String) : IO UInt32 := do
  let words := arguments.map (·.toList)
  let refused : Child := { fate := .notStarted "processes are not started".toList }
  let (shown, ending) := run Document.read (← readWorld words) words [refused]
  shown.forM Shown.print
  match ending with
  | .ok status => return (status % 256).toNat.toUInt32
  | .error crash =>
      IO.eprintln crash.message
      return 1

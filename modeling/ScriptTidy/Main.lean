import ScriptTidy.Command.Execute
import ScriptTidy.Workspace

/-!
# The command line program

The program reads a workspace from one line of standard input and runs the command line on it. The texts of files that
change are written to the disk.
-/

namespace ScriptTidy

/-- Print what a command line says, and write what it changes. -/
def deliver (before : FileSystem) (effect : Effect) : IO UInt32 := do
  for (path, content) in Workspace.changes before effect.files do
    IO.FS.writeBinFile path content
  IO.print effect.stdout
  IO.eprint effect.stderr
  return effect.code.toUInt32

end ScriptTidy

open ScriptTidy

/-- Run the command line. -/
def main (arguments : List String) : IO UInt32 := do
  let line ← (← IO.getStdin).getLine
  match (Json.ofText? line).bind Workspace.ofJson? with
  | none =>
    IO.eprintln "Error: standard input holds no workspace."
    return 2
  | some workspace =>
    deliver workspace.files (CommandLine.run workspace.trees.parser workspace.files arguments)

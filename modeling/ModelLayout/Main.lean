import ModelLayout.Shell.CommandLine
import ModelLayout.Shell.Snapshot

/-!
# The program

Reads a snapshot of a disk from standard input and checks the files that the arguments name.
-/

namespace ModelLayout

/-- All lines of a stream. -/
partial def readAllText (stream : IO.FS.Stream) (text : String) : IO String := do
  let line ← stream.getLine
  if line.isEmpty then return text else readAllText stream (text ++ line)

end ModelLayout

/-- Check the files of a snapshot. -/
def main (args : List String) : IO UInt32 := do
  let text ← ModelLayout.readAllText (← IO.getStdin) ""
  match ModelLayout.Snapshot.parse? text with
  | none =>
    IO.eprintln (ModelLayout.complaint "standard input is not a snapshot")
    return 2
  | some snapshot =>
    let outcome := snapshot.machine.run (ModelLayout.SourceFile.grammar snapshot.sources) args
    IO.eprint outcome.errorOutput
    IO.print outcome.output
    return outcome.exitCode.toUInt32

-- The program. Its arguments say what to do, and a snapshot on standard input holds
-- what it may look at.
import CodeAtlas.Command.Perform
import CodeAtlas.Snapshot

namespace CodeAtlas

/-- Reads a stream to its end. -/
partial def readAll (stream : IO.FS.Stream) (before : String) : IO String := do
  let line ← stream.getLine
  if line.isEmpty then return before else readAll stream (before ++ line)

/-- The exit code of an outcome. -/
def Command.Exit.status : Command.Exit → UInt32
  | .code n => n.toUInt32
  | .escaped _ => 1

/-- The lines for the error stream. An error that was not expected comes last. -/
def Command.Outcome.errorLines (o : Command.Outcome) : List String :=
  match o.exit with
  | .code _ => o.err
  | .escaped e => o.err ++ [e.message]

/-- Runs the program once. -/
def runOnce (arguments : List String) : IO UInt32 := do
  let snapshot ← readAll (← IO.getStdin) ""
  let world := Snapshot.world ((Json.parse? snapshot).getD .null) Identifier.ofPath
  let outcome := Command.run world arguments
  for line in outcome.errorLines do
    IO.eprintln line
  IO.print outcome.out
  return outcome.exit.status

end CodeAtlas

/-- The entry of the program. -/
def main (arguments : List String) : IO UInt32 := CodeAtlas.runOnce arguments

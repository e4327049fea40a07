import PocketCalculator.CommandLine.Run

/-!
# PocketCalculator — the command

Reads the arguments and the input, and writes what the run gives.
-/

namespace PocketCalculator.CommandLine

/-- What is shown for arguments that are not understood. -/
def usage : String :=
  "Usage: [-k | --keys] [-s | --strict] [-v | --verbose]... [--] [EXPRESSION]\n"

/-- Reads standard input to its end. -/
partial def readInput (stream : IO.FS.Stream) (input : ByteArray) : IO ByteArray := do
  let chunk ← stream.read 65536
  if chunk.isEmpty then return input
  readInput stream (input ++ chunk)

/-- Runs the command and gives its exit status. -/
def command (arguments : List String) : IO UInt32 := do
  match Options.ofArguments arguments with
  | none =>
    (← IO.getStderr).putStr usage
    return 2
  | some o =>
    let input ← if o.expression.isNone then readInput (← IO.getStdin) .empty else pure .empty
    let outcome := run o input
    (← IO.getStdout).putStr outcome.stdout
    (← IO.getStderr).putStr outcome.stderr
    return outcome.status.toUInt32

end PocketCalculator.CommandLine

/-- Answers an expression, or every line of the input. -/
def main (arguments : List String) : IO UInt32 :=
  PocketCalculator.CommandLine.command arguments

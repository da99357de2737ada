/-
Module: Abacus.Main
Purpose: The calculator as a program: reads its arguments and standard input, writes what the
  command leaves behind.
Main exports: main
-/
import Abacus.Command.Calculate

namespace Abacus

/-- All bytes of a stream. -/
partial def readAll (stream : IO.FS.Stream) (before : ByteArray) : IO ByteArray := do
  let chunk ← stream.read 65536
  if chunk.isEmpty then return before else readAll stream (before ++ chunk)

/-- Writes the outcome of a command and gives its exit status. -/
def report (outcome : Command.Outcome) : IO UInt32 := do
  (← IO.getStdout).putStr outcome.out
  (← IO.getStderr).putStr outcome.err
  return UInt32.ofNat outcome.exit

end Abacus

/-- Evaluates the expressions given as arguments or on standard input. -/
def main (arguments : List String) : IO UInt32 := do
  let input ← if Abacus.Command.readsInput arguments
    then Abacus.readAll (← IO.getStdin) ByteArray.empty
    else pure ByteArray.empty
  match Abacus.Command.calculate arguments input.toList with
  | .ok outcome => Abacus.report outcome
  | .error fault => Abacus.report { exit := 1, err := fault.message ++ "\n" }

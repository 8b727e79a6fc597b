import Polycore.Command.Outcome

/-!
# The command

Runs preset boards from the command line: reads the words and the environment, and writes what
`Polycore.Command.run` makes of them.
-/

open Polycore

/-- Writes the notes, then the report's file, then the output, and ends with the status. -/
def main (words : List String) : IO UInt32 := do
  let environment : Command.Environment :=
    { system := ← IO.getEnv "SYSTEM_CONFIG", workload := ← IO.getEnv "SYS_WORKLOAD" }
  let clock ← IO.monoNanosNow
  let outcome := Command.run environment (UInt64.ofNat clock) words
  for note in outcome.notes do
    IO.eprintln note
  if let some (path, text) := outcome.file then
    IO.FS.writeFile path text
  IO.print outcome.output
  return outcome.status.code

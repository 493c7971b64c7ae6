import RecordFilter.CommandLine.Run

/-!
# The command line program

Reads the files that a command asks for, runs it, and prints what it leaves behind.
-/

namespace RecordFilter

/-- The text of a file, or the reason why it cannot be read. -/
def loadFile (path : String) : IO (Except String Text) := do
  try
    return .ok (← IO.FS.readFile path).toList
  catch _ => return .error CommandLine.missingFile

/-- The files among the arguments of a command. -/
def namedFiles : CommandLine.Command → List String
  | .filter inputs records .. => inputs.schema :: records :: inputs.config.toList
  | .translate inputs .. => inputs.schema :: inputs.config.toList
  | .version => []

/-- A guid of random digits, with the mark of a random guid. -/
def randomGuid : IO Guid := do
  let digits ← IO.rand 0 (2 ^ (122 : Nat) - 1)
  let low := digits % 2 ^ (62 : Nat)
  let middle := digits / 2 ^ (62 : Nat) % 2 ^ (12 : Nat)
  let high := digits / 2 ^ (74 : Nat)
  return Guid.ofNat
    (high * 2 ^ (80 : Nat) + 4 * 2 ^ (76 : Nat) + middle * 2 ^ (64 : Nat) + 2 ^ (63 : Nat) + low)

end RecordFilter

open RecordFilter in
/-- Runs the command that the arguments give. -/
def main (arguments : List String) : IO UInt32 := do
  let names := ((CommandLine.Command.read? arguments).map namedFiles).getD []
  let files ← names.mapM fun name => return (name, ← loadFile name)
  let reader : CommandLine.FileReader := fun name =>
    (files.lookup name).getD (.error CommandLine.missingFile)
  let outcome := CommandLine.run reader (← randomGuid) arguments
  (← IO.getStdout).write ⟨outcome.output.toArray⟩
  (← IO.getStderr).putStr (String.ofList outcome.messages)
  return UInt32.ofNat outcome.exitCode

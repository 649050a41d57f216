import Credential.CommandLine.Outcome

/-! The program: files are read, the report is printed, and the exit code says how it went. -/

set_option autoImplicit false

namespace Credential.CommandLine

def readText? (path : String) : IO (Option String) := do
  try
    return some (← IO.FS.readFile path)
  catch _ =>
    return none

end Credential.CommandLine

open Credential.CommandLine in
def main (arguments : List String) : IO UInt32 := do
  let outcome ← run readText? arguments
  IO.print outcome.output
  if let .trouble trouble := outcome then IO.eprintln trouble.message
  return outcome.exitCode.toUInt32

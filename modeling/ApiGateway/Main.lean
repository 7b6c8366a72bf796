import ApiGateway.Command.Arguments

/-!
# The program

Reads the files, runs the command and prints its outcome.
-/

set_option autoImplicit false

namespace ApiGateway

/-- The content of a file, if it can be read. -/
def contentOf (path : String) : IO (Option ByteArray) := do
  match ← (IO.FS.readBinFile path).toBaseIO with
  | .ok content => return some content
  | .error _ => return none

end ApiGateway

open ApiGateway in
def main (arguments : List String) : IO UInt32 := do
  match Invocation.ofArguments? arguments with
  | none =>
    IO.eprint Invocation.usage
    return Invocation.usageCode
  | some invocation =>
    let settings ← invocation.settingsFile.mapM contentOf
    let document ← contentOf invocation.documentFile
    match invocation.command.runFiles settings document with
    | .ok outcome =>
      IO.print outcome.output
      for issue in outcome.issues do IO.eprintln issue.line
      return outcome.exitCode
    | .error e =>
      IO.eprintln e.report
      return e.exitCode

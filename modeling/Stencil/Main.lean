import Stencil.Command.Run

/-!
# The program

Reads the files that the command line names and the standard input, runs the command and writes
what it answers.
-/

namespace Stencil.Program

/-- Why the system refused, in its words. -/
def describe : IO.Error → String
  | .noFileOrDirectory _ code details | .permissionDenied _ code details
  | .inappropriateType _ code details =>
    details ++ " (os error " ++ toString code ++ ")"
  | e => toString e

def readFile (path : String) : IO Content := do
  try
    return .ok (← IO.FS.readBinFile path)
  catch e =>
    return .error (describe e)

/-- The world as far as the task looks at it. -/
def observe (task : Command.Task) : IO Command.World := do
  let contents ← task.files.mapM fun path => return (path, ← readFile path)
  let input ← if task.readsInput then (← IO.getStdin).readBinToEnd else pure ByteArray.empty
  return ⟨fun path => (contents.lookup path).getD (.error ""), input⟩

end Stencil.Program

open Stencil Stencil.Program in
def main (arguments : List String) : IO UInt32 := do
  let world ← match Command.Invocation.ofArguments? arguments with
    | some i => observe i.task
    | none => pure ⟨fun _ => .error "", ByteArray.empty⟩
  let outcome := Command.run world arguments
  IO.print outcome.output
  IO.eprint outcome.errors
  return outcome.status.toUInt32

import GrpcBindings.Session

/-!
The program: the disk and the standard streams of the system, and the exit code.
-/

namespace GrpcBindings

/-- An action, or the reason why it failed. -/
def caught {α : Type} (action : IO α) : IO (Except Text α) := do
  match ← action.toBaseIO with
  | .ok a => return .ok a
  | .error error => return .error (toString error)

def systemDisk : Disk IO where
  load path := caught do return (← IO.FS.readBinFile (String.ofList path)).toList
  createDirectories paths := caught do
    match paths with
    | [] => return ()
    | path :: _ => IO.FS.createDirAll (String.ofList path)
  save path content := caught do
    IO.FS.writeBinFile (String.ofList path) content.toByteArray

def standardStreams : Channel IO where
  receive := caught do return (← (← IO.getStdin).readBinToEnd).toList
  send octets := caught do (← IO.getStdout).write octets.toByteArray
  flush := caught do (← IO.getStdout).flush

end GrpcBindings

open GrpcBindings in
def main (arguments : List String) : IO UInt32 := do
  let outcome ← Session.run systemDisk standardStreams (arguments.map Text.ofString)
  IO.eprint (String.ofList outcome.report)
  return outcome.exitCode

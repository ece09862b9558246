import GrpcBindings.CommandLine
import GrpcBindings.DescriptorSet

/-!
A run of the program on a disk and a channel, from the arguments to the exit code.
-/

namespace GrpcBindings

structure Outcome where
  exitCode : UInt32
  /-- What is reported of an error. -/
  report : Text := []
  deriving DecidableEq, Repr

namespace Session

variable {m : Type → Type} [Monad m]

/-- Prints for a reader. It is no error if nobody reads. -/
def tell (channel : Channel m) (text : Text) : ExceptT RunError m Unit :=
  ExceptT.lift (discard (channel.send text.utf8))

def perform (disk : Disk m) (channel : Channel m) : Command → ExceptT RunError m Unit
  | .help => tell channel CommandLine.helpText
  | .version => tell channel CommandLine.versionText
  | .serve => Exchange.serve channel
  | .generate setPath directory parameter files => do
      let written ← DescriptorSet.run disk setPath directory parameter files
      tell channel (written.flatMap fun path => "Wrote " ++ path ++ "\n")

def run (disk : Disk m) (channel : Channel m) (arguments : List Text) : m Outcome := do
  match CommandLine.parse arguments with
  | none => return { exitCode := 2 }
  | some command =>
      match ← (perform disk channel command).run with
      | .ok () => return { exitCode := 0 }
      | .error error => return { exitCode := 1, report := error.report }

end Session
end GrpcBindings

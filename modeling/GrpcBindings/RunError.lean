import GrpcBindings.Error
import GrpcBindings.Wire

/-!
Why a run ends without its result, with the cause if another part of the system gave it.
-/

namespace GrpcBindings

/-- What lies behind an error. -/
inductive Cause where
  /-- The system refused an operation. -/
  | system (reason : Text)
  | malformed (reason : Text)
  deriving DecidableEq, Repr

namespace Cause

def message : Cause → Text
  | system reason | malformed reason => reason

end Cause

inductive RunError where
  | receive (reason : Text)
  | request (error : Error)
  | send (reason : Text)
  | flush (reason : Text)
  | load (path reason : Text)
  | descriptorSet (path : Text) (error : Wire.DecodeError)
  | rejected (error : Error)
  /-- There are files that cannot be generated. -/
  | incomplete (failures : Text)
  | createDirectory (path reason : Text)
  | save (path reason : Text)
  deriving DecidableEq, Repr

namespace RunError

def message : RunError → Text
  | receive _ => "Failed to read CodeGeneratorRequest"
  | request _ => "Failed to decode CodeGeneratorRequest"
  | send _ => "Failed to write CodeGeneratorResponse"
  | flush _ => "Failed to flush CodeGeneratorResponse"
  | load path _ => "Failed to read descriptor set " ++ path
  | descriptorSet path _ => "Failed to decode descriptor set " ++ path
  | rejected error => error.message
  | incomplete failures => "Generation failed:\n" ++ failures
  | createDirectory path _ => "Failed to create directory " ++ path
  | save path _ => "Failed to write " ++ path

def cause? : RunError → Option Cause
  | receive reason | send reason | flush reason | load _ reason | createDirectory _ reason
  | save _ reason => some (.system reason)
  | request error => some (.malformed error.message)
  | descriptorSet _ error => some (.malformed error.message)
  | rejected _ | incomplete _ => none

/-- The error as it is reported at the end of a run. -/
def report (error : RunError) : Text :=
  "Error: " ++ error.message ++ "\n" ++
    match error.cause? with
    | some cause => "\nCaused by:\n    " ++ cause.message ++ "\n"
    | none => []

end RunError
end GrpcBindings

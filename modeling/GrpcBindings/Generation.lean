import GrpcBindings.Module
import GrpcBindings.Schema.Resolution

/-!
The generation of a list of files. The parameter and the descriptors are read once for all of them,
and a file that fails leaves the others as they are.
-/

namespace GrpcBindings

structure FileFailure where
  /-- The path as it was asked for. -/
  file : Text
  error : Error
  deriving DecidableEq, Repr

namespace FileFailure

def line (failure : FileFailure) : Text :=
  failure.file ++ ": " ++ failure.error.message

end FileFailure

/-- The modules and the failures, both in the order in which the files were asked for. -/
structure Generation where
  files : List GeneratedFile
  failures : List FileFailure
  deriving DecidableEq, Repr

namespace Generation

def succeeded (generation : Generation) : Bool :=
  generation.failures.isEmpty

/-- A line for each failure, if there is one. -/
def errorMessage? (generation : Generation) : Option Text :=
  if generation.failures.isEmpty then none
  else some (Text.join "\n" (generation.failures.map (·.line)))

def ofPaths (schema : Schema) (options : Options) : List Text → Generation
  | [] => { files := [], failures := [] }
  | path :: rest =>
      let others := ofPaths schema options rest
      match schema.generatePath path options with
      | .ok file => { others with files := file :: others.files }
      | .error error => { others with failures := ⟨path, error⟩ :: others.failures }

def run (descriptors : List FileDescriptor) (paths : List Text) (parameter : Text) :
    Except Error Generation := do
  let options ← Options.ofParameter parameter
  let schema ← Schema.ofDescriptors descriptors
  return ofPaths schema options paths

end Generation
end GrpcBindings

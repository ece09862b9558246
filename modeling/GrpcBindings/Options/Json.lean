import GrpcBindings.Json
import GrpcBindings.Options

/-!
Options as JSON: an object with the module under its key, or an array with nothing but the module.
What is missing has its default, and the value of the module is taken as it is.
-/

namespace GrpcBindings
namespace Options

/-- The value of the known key, given the one already read. All keys must be text. -/
def moduleOfMembers? : (read : Option Text) → List (Option Text × Json) → Option (Option Text)
  | read, [] => some read
  | _, (none, _) :: _ => none
  | read, (some key, value) :: rest =>
      if key = runtimeModuleKey then
        match read, value with
        | none, .string (some specifier) => moduleOfMembers? (some specifier) rest
        | _, _ => none
      else moduleOfMembers? read rest

def ofJson? : Json → Option Options
  | .object members =>
      (moduleOfMembers? none members).map fun
        | some specifier => { runtimeModule := specifier }
        | none => {}
  | .array [] => some {}
  | .array [.string (some specifier)] => some { runtimeModule := specifier }
  | _ => none

def toJson (options : Options) : Text :=
  "\x7b" ++ Json.writeString runtimeModuleKey ++ ":" ++ Json.writeString options.runtimeModule ++
    "\x7d"

end Options
end GrpcBindings

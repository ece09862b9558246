import GrpcBindings.Error
import GrpcBindings.Text.WhiteSpace

/-!
The options of a generation, read from a parameter of comma-separated segments. One key is known,
and every other key is set aside in the order of the segments.
-/

namespace GrpcBindings

structure Options where
  /-- What the alias of the call library is imported from. -/
  runtimeModule : Text := "grpc"
  /-- The keys that are not known. -/
  ignored : List Text := []
  deriving DecidableEq, Repr

namespace Options

def runtimeModuleKey : Text := "runtime_module"

inductive Fault where
  | valueMissing
  | repeated
  | empty
  | notASpecifier (value : Text)
  deriving DecidableEq, Repr

namespace Fault

def message : Fault → Text
  | valueMissing => "option `" ++ runtimeModuleKey ++ "` requires a value"
  | repeated => "option `" ++ runtimeModuleKey ++ "` given more than once"
  | empty => "option `" ++ runtimeModuleKey ++ "` cannot be empty"
  | notASpecifier value =>
      "option `" ++ runtimeModuleKey ++ "` is not a valid module specifier: " ++ value.quoted

end Fault

/-- A segment of the parameter. Without an equals sign all of it is the key. -/
structure Segment where
  key : Text
  value : Option Text
  deriving DecidableEq, Repr

namespace Segment

def ofText (t : Text) : Segment :=
  match t.cut? '=' with
  | some (key, value) => ⟨key.trim, some value.trim⟩
  | none => ⟨t, none⟩

def isKnown (segment : Segment) : Bool :=
  segment.key = runtimeModuleKey

end Segment

def segments (parameter : Text) : List Segment :=
  (((parameter.pieces ',').map Text.trim).filter fun t => !t.isEmpty).map Segment.ofText

/-- The value of the known key, given the one already read, and the other keys. A missing value is
found before a repeated key. -/
def collect : (read : Option Text) → List Segment → Except Fault (Option Text × List Text)
  | read, [] => .ok (read, [])
  | read, segment :: rest =>
      if segment.isKnown then
        match segment.value, read with
        | none, _ => .error .valueMissing
        | some _, some _ => .error .repeated
        | some value, none => collect (some value) rest
      else
        match collect read rest with
        | .error fault => .error fault
        | .ok (value, ignored) => .ok (value, segment.key :: ignored)

/-- A specifier is printed between single quotes on one line, as it is. -/
def checkSpecifier (specifier : Text) : Except Fault Unit :=
  if specifier.isEmpty then .error .empty
  else if specifier.any fun c => c = '\'' || c = '\\' || c = '\n' then
    .error (.notASpecifier specifier)
  else .ok ()

def ofSegments (segments : List Segment) : Except Fault Options := do
  let (value, ignored) ← collect none segments
  let options : Options := { runtimeModule := value.getD (runtimeModule {}), ignored }
  checkSpecifier options.runtimeModule
  return options

def ofParameter (parameter : Text) : Except Error Options :=
  (ofSegments (segments parameter)).mapError fun fault => .configuration fault.message

/-- Options with a module that no rule has looked at. -/
def withRuntimeModule (options : Options) (specifier : Text) : Options :=
  { options with runtimeModule := specifier }

end Options
end GrpcBindings

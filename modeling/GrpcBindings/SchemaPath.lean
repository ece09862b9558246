import GrpcBindings.Error

/-!
Paths of schema files: which of them are accepted, the stem that names the generated modules, and
the way from one file's directory to another module.
-/

namespace GrpcBindings
namespace SchemaPath

inductive Fault where
  | empty
  | absolute
  | backslash
  | emptySegment
  | currentDirectory
  | parentDirectory
  deriving DecidableEq, Repr

namespace Fault

def reason : Fault → Text
  | empty => "path is empty"
  | absolute => "absolute paths are not allowed"
  | backslash => "backslash separators are not allowed"
  | emptySegment => "empty path segment"
  | currentDirectory => "current-directory segments are not allowed"
  | parentDirectory => "parent segments are not allowed"

end Fault

def segmentFault? (segment : Text) : Option Fault :=
  if segment = [] then some .emptySegment
  else if segment = ['.'] then some .currentDirectory
  else if segment = ['.', '.'] then some .parentDirectory
  else none

/-- The first thing that is wrong with a path. Of its segments the first wrong one counts. -/
def fault? (path : Text) : Option Fault :=
  if path = [] then some .empty
  else if path.head? = some '/' then some .absolute
  else if '\\' ∈ path then some .backslash
  else (path.pieces '/').findSome? segmentFault?

def check (path : Text) : Except Error Unit :=
  match fault? path with
  | some fault => .error (.invalidPath path fault.reason)
  | none => .ok ()

/-- The path without the extension of a schema file. Only one extension is dropped. -/
def stem (path : Text) : Text :=
  match List.isSuffixOf? (".protodevel" : Text) path with
  | some stem => stem
  | none => (List.isSuffixOf? (".proto" : Text) path).getD path

/-- The module with the messages of a schema file, without an extension. -/
def messageModule (path : Text) : Text :=
  stem path ++ "_pb"

/-- The file with the services of a schema file. -/
def serviceFile (path : Text) : Text :=
  stem path ++ "_grpc_pb.ts"

/-- The way from the directory of one file to another, both given from the root: up to the root,
then down. -/
def relative (source target : Text) : Text :=
  match source.count '/' with
  | 0 => "./" ++ target
  | depth => (List.replicate depth ("../" : Text)).flatten ++ target

end SchemaPath
end GrpcBindings

import GrpcBindings.Schema.Registry

/-!
Schemas from descriptors. Once everything is declared, the dependencies of each file and the message
types of its methods are looked up, in the order in which the descriptors mention them.
-/

namespace GrpcBindings
namespace Registry

/-- Where the comments of a file are recorded: at its version declaration. -/
def fileCommentPath : List Int := [12]

/-- A position as a path has it: the low 32 bits with a sign. -/
def pathPosition (position : Nat) : Int :=
  (position : Int).bmod UInt32.size

/-- Where the comments of a service are recorded. -/
def serviceCommentPath (position : Nat) : List Int := [6, pathPosition position]

/-- Where the comments of a method are recorded. -/
def methodCommentPath (servicePosition position : Nat) : List Int :=
  serviceCommentPath servicePosition ++ [2, pathPosition position]

def resolveDependency (registry : Registry) (file : FileDescriptor) (path : Text) :
    Except Error FileId :=
  match registry.fileId? path with
  | some id => .ok id
  | none => .error (.missingDependency file.path path)

def resolveType (registry : Registry) (method typeName : Text) : Except Error MessageId :=
  match registry.messageId? (dropLeadingDot typeName) with
  | some id => .ok id
  | none => .error (.unknownMessageType method (typeName.dropWhile (· = '.')))

def resolveMethod (registry : Registry) (locations : List Location) (service : Text)
    (servicePosition : Nat) (method : MethodDescriptor) (position : Nat) :
    Except Error Method := do
  let name := method.name.getD []
  let qualified := service ++ "." ++ name
  let input ← registry.resolveType qualified (method.input.getD [])
  let output ← registry.resolveType qualified (method.output.getD [])
  return {
    name, input, output
    mode := .ofFlags (method.clientStreaming.getD false) (method.serverStreaming.getD false)
    comments := SourceComments.find? locations (methodCommentPath servicePosition position)
  }

def resolveService (registry : Registry) (locations : List Location) (package : Text)
    (service : ServiceDescriptor) (position : Nat) : Except Error Service := do
  let name := service.name.getD []
  let fullName := qualify package name
  let methods ← service.methods.zipIdx.mapM fun (method, methodPosition) =>
    registry.resolveMethod locations fullName position method methodPosition
  return {
    name, fullName, methods
    comments := SourceComments.find? locations (serviceCommentPath position)
  }

def resolveFile (registry : Registry) (file : RegisteredFile) : Except Error SchemaFile := do
  let descriptor := file.descriptor
  let locations := descriptor.locations.getD []
  let dependencies ← descriptor.dependencies.mapM (registry.resolveDependency descriptor)
  let services ← descriptor.services.zipIdx.mapM fun (service, position) =>
    registry.resolveService locations descriptor.packageName service position
  return {
    path := descriptor.path
    package := descriptor.packageName
    messages := file.messages
    services, dependencies
    comments := SourceComments.find? locations fileCommentPath
  }

end Registry

namespace Schema

def ofDescriptors (descriptors : List FileDescriptor) : Except Error Schema := do
  let registry ← Registry.ofDescriptors descriptors
  let files ← registry.files.mapM registry.resolveFile
  return {
    files
    messages := registry.messages
    fileIndex := registry.fileIndex
    messageIndex := registry.messageIndex
  }

end Schema
end GrpcBindings

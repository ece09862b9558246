import GrpcBindings.Proofs.Schema.Registration
import GrpcBindings.Schema.Resolution

/-!
Resolving what the files of a listing mention. The faults are again stated of the descriptors alone:
file by file, the dependencies that no file is named by, then method by method the input and the
output that no message is named by. A schema without a fault has at each place the position of the
name that the descriptor has there.
-/

namespace GrpcBindings

/-- What is wrong with a type that a method names. -/
def typeFaults (fullNames : List Text) (method typeName : Text) : List Error :=
  if ∃ fullName ∈ fullNames, typeName.Names fullName then []
  else [.unknownMessageType method (typeName.dropWhile (· = '.'))]

/-- The input of a method comes before its output. -/
def MethodDescriptor.faults (fullNames : List Text) (service : Text) (method : MethodDescriptor) :
    List Error :=
  typeFaults fullNames (service ++ "." ++ method.name.getD []) (method.input.getD []) ++
    typeFaults fullNames (service ++ "." ++ method.name.getD []) (method.output.getD [])

def ServiceDescriptor.faults (fullNames : List Text) (package : Text)
    (service : ServiceDescriptor) : List Error :=
  service.methods.flatMap fun method =>
    method.faults fullNames (service.fullName package)

namespace FileDescriptor

/-- What a file mentions and none of the files declares. -/
def lookupFaults (files : List FileDescriptor) (file : FileDescriptor) : List Error :=
  (file.dependencies.flatMap fun dependency =>
      if (files.map path).contains dependency then []
      else [Error.missingDependency file.path dependency]) ++
    file.services.flatMap fun service =>
      service.faults (files.flatMap fullNames) file.packageName

end FileDescriptor

namespace Registry

def dependencyId (registry : Registry) (path : Text) : FileId :=
  (registry.fileId? path).getD default

def typeId (registry : Registry) (typeName : Text) : MessageId :=
  (registry.messageId? (dropLeadingDot typeName)).getD default

def methodOf (registry : Registry) (locations : List Location) (servicePosition : Nat)
    (method : MethodDescriptor) (position : Nat) : Method where
  name := method.name.getD []
  input := registry.typeId (method.input.getD [])
  output := registry.typeId (method.output.getD [])
  mode := .ofFlags (method.clientStreaming.getD false) (method.serverStreaming.getD false)
  comments := SourceComments.find? locations (methodCommentPath servicePosition position)

def serviceOf (registry : Registry) (locations : List Location) (package : Text)
    (service : ServiceDescriptor) (position : Nat) : Service where
  name := service.name.getD []
  fullName := qualify package (service.name.getD [])
  methods := service.methods.zipIdx.map fun (method, methodPosition) =>
    registry.methodOf locations position method methodPosition
  comments := SourceComments.find? locations (serviceCommentPath position)

def fileOf (registry : Registry) (file : RegisteredFile) : SchemaFile where
  path := file.descriptor.path
  package := file.descriptor.packageName
  messages := file.messages
  services := file.descriptor.services.zipIdx.map fun (service, position) =>
    registry.serviceOf (file.descriptor.locations.getD []) file.descriptor.packageName service
      position
  dependencies := file.descriptor.dependencies.map registry.dependencyId
  comments := SourceComments.find? (file.descriptor.locations.getD []) fileCommentPath

/-- The schema of a registry, whether or not everything in it is declared. -/
def schemaOf (registry : Registry) : Schema where
  files := registry.files.map registry.fileOf
  messages := registry.messages
  fileIndex := registry.fileIndex
  messageIndex := registry.messageIndex

/-- What is made of the elements alone does not depend on their positions. -/
theorem flatMap_zipIdx {α β : Type} (xs : List α) (f : α → List β) :
    (xs.zipIdx.flatMap fun entry => f entry.1) = xs.flatMap f := by
  rw [← List.flatMap_map Prod.fst, List.zipIdx_map_fst]

variable (files : List FileDescriptor)

theorem resolveDependency_listing (file : FileDescriptor) (path : Text) :
    (listing files).resolveDependency file path =
      firstFault
        (if (files.map FileDescriptor.path).contains path then []
          else [Error.missingDependency file.path path])
        ((listing files).dependencyId path) := by
  unfold resolveDependency dependencyId
  rw [fileId?_listing, ← Text.isSome_findIdx?_eq]
  cases (files.map FileDescriptor.path).findIdx? fun known => known = path <;> rfl

theorem resolveType_listing (method typeName : Text) :
    (listing files).resolveType method typeName =
      firstFault (typeFaults (files.flatMap FileDescriptor.fullNames) method typeName)
        ((listing files).typeId typeName) := by
  have known : (∃ fullName ∈ files.flatMap FileDescriptor.fullNames, typeName.Names fullName) ↔
      ((files.flatMap FileDescriptor.fullNames).findIdx? fun known =>
        known = dropLeadingDot typeName).isSome = true := by
    rw [Text.exists_names_iff, Text.isSome_findIdx?_eq, List.contains_iff_mem]
  rw [typeFaults, if_congr known rfl rfl, resolveType, typeId, messageId?_listing]
  cases (files.flatMap FileDescriptor.fullNames).findIdx? fun known =>
    known = dropLeadingDot typeName <;> rfl

theorem resolveMethod_listing (locations : List Location) (service : Text) (servicePosition : Nat)
    (method : MethodDescriptor) (position : Nat) :
    (listing files).resolveMethod locations service servicePosition method position =
      firstFault (method.faults (files.flatMap FileDescriptor.fullNames) service)
        ((listing files).methodOf locations servicePosition method position) := by
  simp only [resolveMethod, resolveType_listing]
  apply firstFault_bind
  exact firstFault_bind_pure _ _ _

theorem resolveService_listing (locations : List Location) (package : Text)
    (service : ServiceDescriptor) (position : Nat) :
    (listing files).resolveService locations package service position =
      firstFault (service.faults (files.flatMap FileDescriptor.fullNames) package)
        ((listing files).serviceOf locations package service position) := by
  simp only [resolveService]
  rw [mapM_eq_firstFault service.methods.zipIdx fun entry _ =>
    resolveMethod_listing files locations (qualify package (service.name.getD [])) position entry.1
      entry.2]
  rw [firstFault_bind_pure, flatMap_zipIdx service.methods, ServiceDescriptor.faults,
    ServiceDescriptor.fullName, ← qualify_eq_dotted]
  rfl

theorem resolveFile_listing (file : RegisteredFile) :
    (listing files).resolveFile file =
      firstFault (file.descriptor.lookupFaults files) ((listing files).fileOf file) := by
  simp only [resolveFile]
  rw [mapM_eq_firstFault file.descriptor.dependencies fun dependency _ =>
    resolveDependency_listing files file.descriptor dependency]
  apply firstFault_bind
  rw [mapM_eq_firstFault file.descriptor.services.zipIdx fun entry _ =>
    resolveService_listing files (file.descriptor.locations.getD []) file.descriptor.packageName
      entry.1 entry.2]
  rw [firstFault_bind_pure, flatMap_zipIdx file.descriptor.services]
  rfl

theorem resolveFiles_listing :
    (listing files).files.mapM (listing files).resolveFile =
      firstFault (files.flatMap (·.lookupFaults files)) (listing files).schemaOf.files := by
  rw [mapM_eq_firstFault _ fun file _ => resolveFile_listing files file,
    ← List.flatMap_map (fun file : RegisteredFile => file.descriptor), listing_descriptors]
  rfl

end Registry

namespace Schema

open Registry FileDescriptor

/-- All faults of a list of descriptors: first what is declared twice, then what is not declared. -/
def faults (descriptors : List FileDescriptor) : List Error :=
  registrationFaults [] descriptors ++ descriptors.flatMap (·.lookupFaults descriptors)

theorem ofDescriptors_eq (descriptors : List FileDescriptor) :
    ofDescriptors descriptors = firstFault (faults descriptors) (listing descriptors).schemaOf := by
  rw [ofDescriptors, Registry.ofDescriptors_eq]
  apply firstFault_bind
  rw [resolveFiles_listing]
  exact firstFault_bind_pure (fun files => { (listing descriptors).schemaOf with files }) _ _

theorem ofDescriptors_eq_ok {descriptors : List FileDescriptor} {schema : Schema} :
    ofDescriptors descriptors = .ok schema ↔
      faults descriptors = [] ∧ (listing descriptors).schemaOf = schema := by
  rw [ofDescriptors_eq, firstFault_eq_ok]

end Schema
end GrpcBindings

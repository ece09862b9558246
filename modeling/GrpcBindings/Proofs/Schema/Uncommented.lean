import Mathlib.Data.List.GetD
import GrpcBindings.Proofs.Schema.Resolution

/-!
Schemas without comments. Nothing but comments is read from the locations of a descriptor, so
descriptors without locations become the schema without its comments, and are refused for the same
reason as before.
-/

namespace GrpcBindings

def FileDescriptor.uncommented (file : FileDescriptor) : FileDescriptor :=
  { file with locations := none }

def Method.uncommented (method : Method) : Method :=
  { method with comments := none }

def Service.uncommented (service : Service) : Service :=
  { service with methods := service.methods.map .uncommented, comments := none }

def SchemaFile.uncommented (file : SchemaFile) : SchemaFile :=
  { file with services := file.services.map .uncommented, comments := none }

def Schema.uncommented (schema : Schema) : Schema :=
  { schema with files := schema.files.map .uncommented }

def RegisteredFile.uncommented (file : RegisteredFile) : RegisteredFile :=
  { file with descriptor := file.descriptor.uncommented }

def Registry.uncommented (registry : Registry) : Registry :=
  { registry with files := registry.files.map .uncommented }

namespace FileDescriptor

theorem paths_uncommented (files : List FileDescriptor) :
    (files.map uncommented).map path = files.map path := by
  rw [List.map_map]
  rfl

theorem fullNames_uncommented (files : List FileDescriptor) :
    (files.map uncommented).flatMap fullNames = files.flatMap fullNames := by
  rw [List.flatMap_map]
  rfl

theorem repetitions_uncommented (earlier : List FileDescriptor) (file : FileDescriptor) :
    file.uncommented.repetitions (earlier.map uncommented) = file.repetitions earlier := by
  rw [repetitions, repetitions, paths_uncommented, List.flatMap_map]
  rfl

theorem registrationFaults_uncommented (earlier files : List FileDescriptor) :
    registrationFaults (earlier.map uncommented) (files.map uncommented) =
      registrationFaults earlier files := by
  induction files generalizing earlier with
  | nil => rfl
  | cons file rest ih =>
      rw [List.map_cons, registrationFaults, registrationFaults, repetitions_uncommented,
        ← List.map_singleton, ← List.map_append, ih]

theorem lookupFaults_uncommented (files : List FileDescriptor) (file : FileDescriptor) :
    file.uncommented.lookupFaults (files.map uncommented) = file.lookupFaults files := by
  rw [lookupFaults, lookupFaults, paths_uncommented, fullNames_uncommented]
  rfl

end FileDescriptor

namespace Registry

/-- What is made of a file does not depend on the locations of the other files. -/
theorem uncommented_fileOf (registry : Registry) (file : RegisteredFile) :
    registry.uncommented.fileOf file = registry.fileOf file := rfl

theorem extend_uncommented (registry : Registry) (file : FileDescriptor) :
    registry.uncommented.extend file.uncommented = (registry.extend file).uncommented := by
  simp only [extend, uncommented, List.map_append, List.length_map]
  rfl

theorem listing_uncommented (descriptors : List FileDescriptor) :
    listing (descriptors.map .uncommented) = (listing descriptors).uncommented := by
  induction descriptors using List.reverseRecOn with
  | nil => rfl
  | append_singleton descriptors file ih =>
      rw [List.map_append, List.map_singleton, listing_append_singleton, listing_append_singleton,
        ih, extend_uncommented]

theorem serviceOf_uncommented (registry : Registry) (locations : List Location) (package : Text)
    (service : ServiceDescriptor) (position : Nat) :
    registry.uncommented.serviceOf [] package service position =
      (registry.serviceOf locations package service position).uncommented := by
  simp only [serviceOf, Service.uncommented, List.map_map]
  -- Among no locations there are no comments at any path.
  rfl

theorem fileOf_uncommented (registry : Registry) (file : RegisteredFile) :
    registry.uncommented.fileOf file.uncommented = (registry.fileOf file).uncommented := by
  have services : (file.descriptor.services.zipIdx.map fun entry =>
        registry.uncommented.serviceOf [] file.descriptor.packageName entry.1 entry.2) =
      (registry.fileOf file).services.map .uncommented := by
    rw [fileOf, List.map_map]
    exact List.map_congr_left fun entry _ => serviceOf_uncommented registry _ _ entry.1 entry.2
  rw [uncommented_fileOf, SchemaFile.uncommented, ← services]
  rfl

theorem schemaOf_uncommented (registry : Registry) :
    registry.uncommented.schemaOf = registry.schemaOf.uncommented := by
  have files : (registry.files.map .uncommented).map registry.uncommented.fileOf =
      (registry.files.map registry.fileOf).map .uncommented := by
    rw [List.map_map, List.map_map]
    exact List.map_congr_left fun file _ => fileOf_uncommented registry file
  rw [schemaOf, Schema.uncommented, schemaOf, ← files]
  rfl

end Registry

namespace Schema

theorem faults_uncommented (descriptors : List FileDescriptor) :
    faults (descriptors.map .uncommented) = faults descriptors := by
  have registration := FileDescriptor.registrationFaults_uncommented [] descriptors
  rw [List.map_nil] at registration
  rw [faults, faults, registration, List.flatMap_map]
  simp only [FileDescriptor.lookupFaults_uncommented]

theorem ofDescriptors_uncommented (descriptors : List FileDescriptor) :
    ofDescriptors (descriptors.map .uncommented) =
      (ofDescriptors descriptors).map .uncommented := by
  rw [ofDescriptors_eq, ofDescriptors_eq, faults_uncommented, Registry.listing_uncommented,
    Registry.schemaOf_uncommented]
  cases faults descriptors <;> rfl

variable (schema : Schema)

theorem file_uncommented (id : FileId) :
    schema.uncommented.file id = (schema.file id).uncommented :=
  List.getD_map schema.files default SchemaFile.uncommented

theorem fileId_uncommented (path : Text) : schema.uncommented.fileId path = schema.fileId path :=
  rfl

end Schema
end GrpcBindings

import GrpcBindings.ImportBlock
import GrpcBindings.Proofs.FirstFault

/-!
The imports of a module and why there are none. The only fault of an import block is a dependency
whose path is not accepted, and the first such dependency is the one that is reported.
-/

namespace GrpcBindings
namespace SchemaPath

/-- What is wrong with a path, as it is reported. -/
def faults (path : Text) : List Error :=
  ((fault? path).map fun fault => Error.invalidPath path fault.reason).toList

theorem check_eq (path : Text) : check path = firstFault (faults path) () := by
  unfold check faults
  cases fault? path <;> rfl

theorem faults_eq_nil {path : Text} : faults path = [] ↔ check path = .ok () := by
  simp [check_eq, firstFault_eq_ok]

theorem invalidPath_of_mem_faults {path : Text} {error : Error} (member : error ∈ faults path) :
    ∃ reason, error = .invalidPath path reason := by
  obtain ⟨fault, _, rfl⟩ := Option.map_eq_some_iff.mp (Option.mem_toList.mp member)
  exact ⟨fault.reason, rfl⟩

theorem invalidPath_of_check {path : Text} {error : Error} (rejected : check path = .error error) :
    ∃ reason, error = .invalidPath path reason := by
  rw [check_eq, firstFault_eq_error] at rejected
  exact invalidPath_of_mem_faults (List.mem_of_head? rejected)

end SchemaPath

namespace Schema

variable (schema : Schema) (file : SchemaFile) (options : Options)

/-- The imports of the messages of dependencies, whether or not their paths are accepted. -/
def dependencyImports : List Item :=
  file.dependencies.map fun dependency => messageImport file.path (schema.file dependency).path

/-- The imports of a module, whether or not the paths of the dependencies are accepted. -/
def imports : List Item :=
  .namespaceImport runtimeAlias options.runtimeModule ::
    (if file.messages.isEmpty then [] else [messageImport file.path file.path]) ++
      schema.dependencyImports file

def importFaults : List Error :=
  file.dependencies.flatMap fun dependency => SchemaPath.faults (schema.file dependency).path

theorem dependencyImport_eq (dependency : FileId) :
    schema.dependencyImport file dependency =
      firstFault (SchemaPath.faults (schema.file dependency).path)
        (messageImport file.path (schema.file dependency).path) := by
  rw [dependencyImport, SchemaPath.check_eq]
  exact firstFault_bind_pure _ _ _

theorem importBlock_eq :
    schema.importBlock file options =
      firstFault (schema.importFaults file) (schema.imports file options) := by
  rw [importBlock,
    mapM_eq_firstFault _ fun dependency _ => schema.dependencyImport_eq file dependency]
  exact firstFault_bind_pure _ _ _

theorem importFaults_eq_nil :
    schema.importFaults file = [] ↔
      ∀ dependency ∈ file.dependencies,
        SchemaPath.check (schema.file dependency).path = .ok () := by
  simp only [importFaults, List.flatMap_eq_nil_iff, SchemaPath.faults_eq_nil]

theorem importBlock_of_fine
    (fine : ∀ dependency ∈ file.dependencies,
      SchemaPath.check (schema.file dependency).path = .ok ()) :
    schema.importBlock file options = .ok (schema.imports file options) := by
  rw [importBlock_eq, firstFault_eq_ok, importFaults_eq_nil]
  exact ⟨fine, rfl⟩

theorem invalidPath_of_importBlock {schema : Schema} {file : SchemaFile} {options : Options}
    {error : Error} (failed : schema.importBlock file options = .error error) :
    ∃ path reason, error = .invalidPath path reason := by
  rw [importBlock_eq, firstFault_eq_error] at failed
  obtain ⟨dependency, _, faulty⟩ := List.mem_flatMap.mp (List.mem_of_head? failed)
  exact ⟨_, SchemaPath.invalidPath_of_mem_faults faulty⟩

/-- The dependency that is reported is the first whose path is not accepted. -/
theorem importBlock_of_rejected {before after : List FileId} {dependency : FileId} {error : Error}
    (split : file.dependencies = before ++ dependency :: after)
    (fine : ∀ earlier ∈ before, SchemaPath.check (schema.file earlier).path = .ok ())
    (rejected : SchemaPath.check (schema.file dependency).path = .error error) :
    schema.importBlock file options = .error error := by
  have none : (before.flatMap fun earlier => SchemaPath.faults (schema.file earlier).path) = [] :=
    List.flatMap_eq_nil_iff.mpr fun earlier member =>
      SchemaPath.faults_eq_nil.mpr (fine earlier member)
  rw [SchemaPath.check_eq, firstFault_eq_error] at rejected
  rw [importBlock_eq, firstFault_eq_error, importFaults, split, List.flatMap_append, none,
    List.nil_append, List.flatMap_cons, List.head?_append, rejected]
  rfl

end Schema
end GrpcBindings

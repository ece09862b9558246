import Mathlib.Data.List.Pairwise
import GrpcBindings.Proofs.Schema.Resolution

/-!
Which lists of descriptors become a schema. They are those whose paths and full names are distinct
and whose dependencies and types are declared in some file of the list, before or after. Any other
list is refused for its first fault, and no fault of a look-up is reported before one of a repeated
declaration.
-/

namespace GrpcBindings

/-- What the names in a list of descriptors have to be for a schema. -/
structure Consistent (descriptors : List FileDescriptor) : Prop where
  pathsDistinct : (descriptors.map (·.path)).Nodup
  fullNamesDistinct : (descriptors.flatMap (·.fullNames)).Nodup
  dependenciesDeclared : ∀ file ∈ descriptors, ∀ dependency ∈ file.dependencies,
    ∃ declared ∈ descriptors, declared.path = dependency
  typesDeclared : ∀ file ∈ descriptors, ∀ service ∈ file.services, ∀ method ∈ service.methods,
    ∀ typeName ∈ [method.input.getD [], method.output.getD []],
      ∃ fullName ∈ descriptors.flatMap (·.fullNames), typeName.Names fullName

/-- A full name is declared in one file only. -/
theorem Consistent.eq_of_declared {descriptors : List FileDescriptor}
    (consistent : Consistent descriptors) {file other : FileDescriptor}
    (member : file ∈ descriptors) (otherMember : other ∈ descriptors) {fullName : Text}
    (declared : fullName ∈ file.fullNames) (otherDeclared : fullName ∈ other.fullNames) :
    file = other := by
  by_contra different
  have disjoint := (List.nodup_flatMap.mp consistent.fullNamesDistinct).2
  have : Std.Symm (Function.onFun List.Disjoint FileDescriptor.fullNames) :=
    ⟨fun _ _ apart _ later earlier => apart earlier later⟩
  exact disjoint.forall member otherMember different declared otherDeclared

/-- Consistency does not depend on the order of the descriptors. -/
theorem Consistent.perm {descriptors permuted : List FileDescriptor}
    (consistent : Consistent descriptors) (same : permuted.Perm descriptors) :
    Consistent permuted where
  pathsDistinct := (same.map _).nodup_iff.mpr consistent.pathsDistinct
  fullNamesDistinct := (same.flatMap_right _).nodup_iff.mpr consistent.fullNamesDistinct
  dependenciesDeclared := by
    intro file member dependency mentioned
    obtain ⟨declared, declaredMember, path⟩ :=
      consistent.dependenciesDeclared file (same.mem_iff.mp member) dependency mentioned
    exact ⟨declared, same.mem_iff.mpr declaredMember, path⟩
  typesDeclared := by
    intro file member service serviceMember method methodMember typeName mentioned
    obtain ⟨fullName, declared, named⟩ := consistent.typesDeclared file (same.mem_iff.mp member)
      service serviceMember method methodMember typeName mentioned
    exact ⟨fullName, (same.flatMap_right _).mem_iff.mpr declared, named⟩

theorem typeFaults_eq_nil (fullNames : List Text) (method typeName : Text) :
    typeFaults fullNames method typeName = [] ↔
      ∃ fullName ∈ fullNames, typeName.Names fullName := by
  rw [typeFaults, ite_eq_left_iff]
  simp only [List.cons_ne_nil, imp_false, not_not]

theorem MethodDescriptor.faults_eq_nil (fullNames : List Text) (service : Text)
    (method : MethodDescriptor) :
    method.faults fullNames service = [] ↔
      ∀ typeName ∈ [method.input.getD [], method.output.getD []],
        ∃ fullName ∈ fullNames, typeName.Names fullName := by
  simp only [faults, List.append_eq_nil_iff, typeFaults_eq_nil, List.forall_mem_cons,
    List.not_mem_nil, false_implies, implies_true, and_true]

theorem ServiceDescriptor.faults_eq_nil (fullNames : List Text) (package : Text)
    (service : ServiceDescriptor) :
    service.faults fullNames package = [] ↔
      ∀ method ∈ service.methods, ∀ typeName ∈ [method.input.getD [], method.output.getD []],
        ∃ fullName ∈ fullNames, typeName.Names fullName := by
  simp only [faults, List.flatMap_eq_nil_iff, MethodDescriptor.faults_eq_nil]

theorem FileDescriptor.lookupFaults_eq_nil (files : List FileDescriptor) (file : FileDescriptor) :
    file.lookupFaults files = [] ↔
      (∀ dependency ∈ file.dependencies, ∃ declared ∈ files, declared.path = dependency) ∧
        ∀ service ∈ file.services, ∀ method ∈ service.methods,
          ∀ typeName ∈ [method.input.getD [], method.output.getD []],
            ∃ fullName ∈ files.flatMap fullNames, typeName.Names fullName := by
  have missing (dependency : Text) :
      (if (files.map path).contains dependency then []
        else [Error.missingDependency file.path dependency]) = [] ↔
        ∃ declared ∈ files, declared.path = dependency := by
    rw [← List.mem_map]
    by_cases known : dependency ∈ files.map path <;> simp [known]
  simp only [lookupFaults, List.append_eq_nil_iff, List.flatMap_eq_nil_iff, missing,
    ServiceDescriptor.faults_eq_nil]

namespace Schema

open FileDescriptor

theorem faults_eq_nil (descriptors : List FileDescriptor) :
    faults descriptors = [] ↔ Consistent descriptors := by
  simp only [faults, List.append_eq_nil_iff, List.flatMap_eq_nil_iff, lookupFaults_eq_nil,
    registrationFaults_eq_nil descriptors [] List.nodup_nil List.nodup_nil, List.nil_append]
  constructor
  · rintro ⟨⟨paths, names⟩, lookups⟩
    exact ⟨paths, names, fun file member => (lookups file member).1,
      fun file member => (lookups file member).2⟩
  · intro consistent
    exact ⟨⟨consistent.pathsDistinct, consistent.fullNamesDistinct⟩, fun file member =>
      ⟨consistent.dependenciesDeclared file member, consistent.typesDeclared file member⟩⟩

theorem ofDescriptors_of_consistent {descriptors : List FileDescriptor}
    (consistent : Consistent descriptors) :
    ofDescriptors descriptors = .ok (Registry.listing descriptors).schemaOf :=
  ofDescriptors_eq_ok.mpr ⟨(faults_eq_nil descriptors).mpr consistent, rfl⟩

theorem consistent_of_ofDescriptors {descriptors : List FileDescriptor} {schema : Schema}
    (accepted : ofDescriptors descriptors = .ok schema) : Consistent descriptors :=
  (faults_eq_nil descriptors).mp (ofDescriptors_eq_ok.mp accepted).1

/-- A list of descriptors is accepted if and only if it is consistent, and refused for the first of
its faults. -/
theorem ofDescriptors_accepts_or_reports_first_fault (descriptors : List FileDescriptor) :
    ((∃ schema, ofDescriptors descriptors = .ok schema) ↔ Consistent descriptors) ∧
      ∀ error, ofDescriptors descriptors = .error error ↔
        (faults descriptors).head? = some error := by
  refine ⟨⟨?_, ?_⟩, ?_⟩
  · rintro ⟨schema, accepted⟩
    exact consistent_of_ofDescriptors accepted
  · intro consistent
    exact ⟨_, ofDescriptors_of_consistent consistent⟩
  · intro error
    rw [ofDescriptors_eq, firstFault_eq_error]

end Schema
end GrpcBindings

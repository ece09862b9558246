import GrpcBindings.Disk.Path
import GrpcBindings.Proofs.Response
import GrpcBindings.Proofs.SchemaPath

/-!
Names of generated files. A file is named after the stem of its path, so two paths that differ only
in their extensions have one name, and what is saved for the second replaces what was saved for the
first. No other paths share a name.
-/

namespace GrpcBindings

theorem SchemaPath.serviceFile_eq_iff {first second : Text} :
    serviceFile first = serviceFile second ↔ stem first = stem second := by
  rw [serviceFile, serviceFile, List.append_cancel_right_eq]

namespace Disk.Path

theorem join_eq_iff (base : Text) {first second : Text} (relative : isAbsolute first = false)
    (otherRelative : isAbsolute second = false) :
    join base first = join base second ↔ first = second := by
  simp only [join, relative, otherRelative, Bool.false_eq_true, if_false]
  split
  · rw [List.append_cancel_left_eq]
  · rw [List.append_cancel_left_eq]

end Disk.Path

namespace Request

variable {request : Request}

/-- The files of an answer are named after the paths that were asked for. -/
theorem respond_names (succeeds : request.respond.error = none) :
    request.respond.files.map (·.name) = request.filesToGenerate.map SchemaPath.serviceFile := by
  obtain ⟨options, schema, read, accepted⟩ := exists_of_respond succeeds
  rw [← List.forall₂_eq_eq_eq, List.forall₂_map_left_iff, List.forall₂_map_right_iff]
  apply (respond_files read accepted succeeds).flip.imp
  intro file path generated
  exact Schema.name_of_generatePath accepted generated

theorem respond_isName (succeeds : request.respond.error = none) :
    ∀ name ∈ request.respond.files.map (·.name), ∀ segment ∈ name.pieces '/',
      SchemaPath.IsName segment := by
  rw [respond_names succeeds, List.forall_mem_map]
  intro path member
  obtain ⟨_, _, rfl, fine, _⟩ := (respond_error_none_iff.mp succeeds).servable path member
  exact SchemaPath.isName_serviceFile fine

theorem respond_relative (succeeds : request.respond.error = none) :
    ∀ name ∈ request.respond.files.map (·.name), Disk.Path.isAbsolute name = false := by
  intro name member
  exact decide_eq_false (SchemaPath.head?_ne_slash (respond_isName succeeds name member))

theorem names_nodup_iff (succeeds : request.respond.error = none)
    (distinct : request.filesToGenerate.Nodup) :
    (request.respond.files.map (·.name)).Nodup ↔
      ∀ first ∈ request.filesToGenerate, ∀ second ∈ request.filesToGenerate,
        SchemaPath.stem first = SchemaPath.stem second → first = second := by
  rw [respond_names succeeds, List.nodup_map_iff_inj_on distinct]
  simp only [SchemaPath.serviceFile_eq_iff]

/-- Below a directory, different names are different places. -/
theorem places_nodup_iff (succeeds : request.respond.error = none) (directory : Text) :
    (request.respond.files.map fun file => Disk.Path.join directory file.name).Nodup ↔
      (request.respond.files.map (·.name)).Nodup := by
  have relative := respond_relative succeeds
  have places : (request.respond.files.map fun file => Disk.Path.join directory file.name) =
      (request.respond.files.map (·.name)).map (Disk.Path.join directory) := by
    rw [List.map_map]
    rfl
  rw [places]
  constructor
  · exact List.Nodup.of_map (Disk.Path.join directory)
  · intro distinct
    rw [List.nodup_map_iff_inj_on distinct]
    intro first firstMember second secondMember
    exact (Disk.Path.join_eq_iff directory (relative first firstMember)
      (relative second secondMember)).mp

/-- The files of an answer have distinct names unless two of the paths differ only in their
extensions, and as many places below a directory as they have names. -/
theorem respond_names_distinct_iff (succeeds : request.respond.error = none)
    (distinct : request.filesToGenerate.Nodup) :
    ((request.respond.files.map (·.name)).Nodup ↔
      ∀ first ∈ request.filesToGenerate, ∀ second ∈ request.filesToGenerate,
        SchemaPath.stem first = SchemaPath.stem second → first = second) ∧
    (∀ extension : Text,
      (∀ path ∈ request.filesToGenerate, path = SchemaPath.stem path ++ extension) →
        (request.respond.files.map (·.name)).Nodup) ∧
    ∀ directory : Text,
      (request.respond.files.map fun file => Disk.Path.join directory file.name).Nodup ↔
        (request.respond.files.map (·.name)).Nodup := by
  have names := names_nodup_iff succeeds distinct
  refine ⟨names, ?_, places_nodup_iff succeeds⟩
  intro extension extended
  rw [names]
  intro first firstMember second secondMember same
  rw [extended first firstMember, extended second secondMember, same]

/-- Two files whose paths differ only in their extensions. -/
def siblings : Request where
  filesToGenerate := ["greet/hello.proto", "greet/hello.protodevel"]
  parameter := none
  descriptors :=
    [
      {
        name := some "greet/hello.proto", package := none, dependencies := []
        messages := [.mk (some "Hello") []]
        services := [], locations := none
      },
      {
        name := some "greet/hello.protodevel", package := none
        dependencies := ["greet/hello.proto"]
        messages := [.mk (some "Draft") []]
        services := [], locations := none
      }
    ]

theorem siblings_accepted : siblings.Accepted :=
  ⟨⟨_, rfl⟩, ⟨_, rfl⟩, by decide⟩

theorem respond_names_distinct_iff_siblings :
    siblings.respond.error = none ∧ siblings.filesToGenerate.Nodup ∧
      ((siblings.respond.files.map (·.name)).Nodup ↔
        ∀ first ∈ siblings.filesToGenerate, ∀ second ∈ siblings.filesToGenerate,
          SchemaPath.stem first = SchemaPath.stem second → first = second) ∧
      (∀ extension : Text,
        (∀ path ∈ siblings.filesToGenerate, path = SchemaPath.stem path ++ extension) →
          (siblings.respond.files.map (·.name)).Nodup) ∧
      ∀ directory : Text,
        (siblings.respond.files.map fun file => Disk.Path.join directory file.name).Nodup ↔
          (siblings.respond.files.map (·.name)).Nodup := by
  have succeeds : siblings.respond.error = none := respond_error_none_iff.mpr siblings_accepted
  have distinct : siblings.filesToGenerate.Nodup := by decide
  exact ⟨succeeds, distinct, respond_names_distinct_iff succeeds distinct⟩

/-- The answer has two files with one name. -/
theorem siblings_share_name :
    siblings.filesToGenerate.Nodup ∧ siblings.respond.error = none ∧
      siblings.respond.files.map (·.name) =
        ["greet/hello_grpc_pb.ts", "greet/hello_grpc_pb.ts"] ∧
      ¬ (siblings.respond.files.map (·.name)).Nodup := by
  have succeeds : siblings.respond.error = none := respond_error_none_iff.mpr siblings_accepted
  have names : siblings.respond.files.map (·.name) =
      ["greet/hello_grpc_pb.ts", "greet/hello_grpc_pb.ts"] := by
    rw [respond_names succeeds]
    rfl
  refine ⟨by decide, succeeds, names, ?_⟩
  rw [names]
  decide

end Request
end GrpcBindings

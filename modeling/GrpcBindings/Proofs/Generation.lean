import GrpcBindings.Generation
import GrpcBindings.Proofs.Module.Outcome

/-!
The generation of a list of files. A file is generated if and only if some descriptor has its path
and that path and those of the dependencies are accepted. What becomes of a file does not depend on
the others in the list.
-/

namespace GrpcBindings

/-- A descriptor has the path, and no path that its module is made from is refused. -/
def Servable (descriptors : List FileDescriptor) (path : Text) : Prop :=
  ∃ file ∈ descriptors, file.path = path ∧ SchemaPath.check file.path = .ok () ∧
    ∀ dependency ∈ file.dependencies, SchemaPath.check dependency = .ok ()

instance (descriptors : List FileDescriptor) (path : Text) :
    Decidable (Servable descriptors path) :=
  inferInstanceAs (Decidable (∃ file ∈ descriptors, _))

namespace Schema

variable {descriptors : List FileDescriptor} {schema : Schema} {options : Options}

theorem generate_ok_iff (accepted : ofDescriptors descriptors = .ok schema) {id : FileId}
    (known : id.index < schema.files.length) :
    (∃ generated, schema.generate id options = .ok generated) ↔
      SchemaPath.check (schema.file id).path = .ok () ∧
        ∀ dependency ∈ (schema.file id).dependencies,
          SchemaPath.check (schema.file dependency).path = .ok () := by
  have unlimited : ({} : Sink).room = none := rfl
  rw [← Module.write_ok_iff accepted known options unlimited, generate]
  rcases Module.write schema id options {} with ⟨_ | _, sink⟩
  · constructor
    · rintro ⟨_, generated⟩
      cases generated
    · intro succeeds
      cases succeeds
  · exact ⟨fun _ => rfl, fun _ => ⟨_, rfl⟩⟩

theorem name_of_generate {id : FileId} {generated : GeneratedFile}
    (found : schema.generate id options = .ok generated) :
    generated.name = SchemaPath.serviceFile (schema.file id).path := by
  rw [generate] at found
  split at found
  · cases found
  · cases found
    rfl

theorem generatePath_of_fileId {path : Text} {id : FileId} (found : schema.fileId path = .ok id)
    (options : Options) : schema.generatePath path options = schema.generate id options := by
  rw [generatePath, found]
  rfl

theorem generatePath_of_unknown {path : Text} {error : Error}
    (unknown : schema.fileId path = .error error) (options : Options) :
    schema.generatePath path options = .error error := by
  rw [generatePath, unknown]
  rfl

/-- The path of a descriptor leads to the file that is at its position in the schema. -/
theorem generatePath_of_descriptor (accepted : ofDescriptors descriptors = .ok schema)
    {file : FileDescriptor} (member : file ∈ descriptors) (options : Options) :
    ∃ position, descriptors[position]? = some file ∧
      schema.generatePath file.path options = schema.generate ⟨position⟩ options := by
  obtain ⟨position, found, entry⟩ := fileId_of_accepted accepted member
  exact ⟨position, entry, generatePath_of_fileId found options⟩

theorem generatePath_of_absent (accepted : ofDescriptors descriptors = .ok schema) {path : Text}
    (absent : path ∉ descriptors.map FileDescriptor.path) :
    schema.generatePath path options = .error (.unknownFile path) :=
  generatePath_of_unknown (fileId_of_absent accepted absent) options

/-- The dependencies that are checked are those that the descriptor lists. -/
theorem dependencies_checked_iff (accepted : ofDescriptors descriptors = .ok schema)
    {position : Nat} {file : FileDescriptor} (entry : descriptors[position]? = some file) :
    (∀ dependency ∈ (schema.file ⟨position⟩).dependencies,
        SchemaPath.check (schema.file dependency).path = .ok ()) ↔
      ∀ dependency ∈ file.dependencies, SchemaPath.check dependency = .ok () := by
  rw [← (file_of_accepted accepted entry).2.2, List.forall_mem_map]

theorem generatePath_ok_iff (accepted : ofDescriptors descriptors = .ok schema) (options : Options)
    (path : Text) :
    (∃ generated, schema.generatePath path options = .ok generated) ↔
      Servable descriptors path := by
  have ofFile {file : FileDescriptor} (member : file ∈ descriptors) :
      (∃ generated, schema.generatePath file.path options = .ok generated) ↔
        SchemaPath.check file.path = .ok () ∧
          ∀ dependency ∈ file.dependencies, SchemaPath.check dependency = .ok () := by
    obtain ⟨position, entry, same⟩ := generatePath_of_descriptor accepted member options
    have known : position < schema.files.length := by
      rw [files_length_of_accepted accepted]
      exact (List.getElem?_eq_some_iff.mp entry).1
    rw [same, generate_ok_iff accepted known, dependencies_checked_iff accepted entry,
      (file_of_accepted accepted entry).1]
  constructor
  · rintro ⟨generated, found⟩
    by_cases declared : path ∈ descriptors.map FileDescriptor.path
    · obtain ⟨file, member, rfl⟩ := List.mem_map.mp declared
      exact ⟨file, member, rfl, (ofFile member).mp ⟨generated, found⟩⟩
    · rw [generatePath_of_absent accepted declared] at found
      cases found
  · rintro ⟨file, member, rfl, fine⟩
    exact (ofFile member).mpr fine

theorem name_of_generatePath (accepted : ofDescriptors descriptors = .ok schema) {path : Text}
    {generated : GeneratedFile} (found : schema.generatePath path options = .ok generated) :
    generated.name = SchemaPath.serviceFile path := by
  obtain ⟨file, member, rfl, _⟩ := (generatePath_ok_iff accepted options path).mp ⟨generated, found⟩
  obtain ⟨position, entry, same⟩ := generatePath_of_descriptor accepted member options
  rw [name_of_generate (same ▸ found), (file_of_accepted accepted entry).1]

end Schema

namespace Generation

variable (schema : Schema) (options : Options) (paths : List Text)

theorem ofPaths_failures_eq_nil :
    (ofPaths schema options paths).failures = [] ↔
      ∀ path ∈ paths, ∃ generated, schema.generatePath path options = .ok generated := by
  induction paths with
  | nil => simp [ofPaths]
  | cons path rest ih =>
      rw [ofPaths, List.forall_mem_cons]
      cases schema.generatePath path options with
      | ok generated => simpa using ih
      | error error => simp

/-- If nothing fails, there is a module for each path. -/
theorem ofPaths_files
    (fine : ∀ path ∈ paths, ∃ generated, schema.generatePath path options = .ok generated) :
    List.Forall₂ (fun path generated => schema.generatePath path options = .ok generated) paths
      (ofPaths schema options paths).files := by
  induction paths with
  | nil => exact .nil
  | cons path rest ih =>
      rw [List.forall_mem_cons] at fine
      obtain ⟨⟨generated, found⟩, others⟩ := fine
      simp only [ofPaths, found]
      exact .cons found (ih others)

variable {schema}

/-- The failures are those of the paths that cannot be served, in their order. -/
theorem ofPaths_failures {descriptors : List FileDescriptor}
    (accepted : Schema.ofDescriptors descriptors = .ok schema) :
    (ofPaths schema options paths).failures.map (·.file) =
        paths.filter (fun path => ¬ Servable descriptors path) ∧
      ∀ failure ∈ (ofPaths schema options paths).failures,
        schema.generatePath failure.file options = .error failure.error := by
  induction paths with
  | nil => exact ⟨rfl, List.forall_mem_nil _⟩
  | cons path rest ih =>
      have served := Schema.generatePath_ok_iff accepted options path
      cases result : schema.generatePath path options with
      | ok generated =>
          have servable : Servable descriptors path := served.mp ⟨generated, result⟩
          simp only [ofPaths, result]
          rw [List.filter_cons_of_neg (by simpa using servable)]
          exact ih
      | error error =>
          have refused : ¬ Servable descriptors path := by
            intro servable
            obtain ⟨_, found⟩ := served.mpr servable
            rw [result] at found
            cases found
          simp only [ofPaths, result]
          rw [List.filter_cons_of_pos (by simpa using refused), List.map_cons, ih.1,
            List.forall_mem_cons]
          exact ⟨rfl, result, ih.2⟩

theorem run_eq_ok {descriptors : List FileDescriptor} {paths : List Text} {parameter : Text}
    {generation : Generation} :
    run descriptors paths parameter = .ok generation ↔
      ∃ options schema, Options.ofParameter parameter = .ok options ∧
        Schema.ofDescriptors descriptors = .ok schema ∧
        generation = ofPaths schema options paths := by
  rw [run]
  cases Options.ofParameter parameter with
  | error _ => simp [bind, Except.bind]
  | ok options =>
      refine bind_pure_eq_ok.trans ⟨?_, ?_⟩
      · rintro ⟨schema, accepted, same⟩
        exact ⟨options, schema, rfl, accepted, same⟩
      · rintro ⟨_, schema, read, accepted, same⟩
        cases read
        exact ⟨schema, accepted, same⟩

theorem errorMessage?_eq_none {generation : Generation} :
    generation.errorMessage? = none ↔ generation.failures = [] := by
  rw [errorMessage?]
  cases generation.failures <;> simp

theorem errorMessage?_of_failures {generation : Generation} (failed : generation.failures ≠ []) :
    generation.errorMessage? = some (Text.join "\n" (generation.failures.map (·.line))) :=
  if_neg (by simpa using failed)

end Generation
end GrpcBindings

import GrpcBindings.Proofs.Generation
import GrpcBindings.Proofs.ModuleAlias

/-!
Which messages the imports of a module cover. Types are looked up in all the files of a schema, but
only the messages of the file itself and of its dependencies are imported. A type that is declared
further away is mentioned under an alias that nothing binds.
-/

namespace GrpcBindings

/-- The bindings or the contracts in the module of a file mention a message. -/
inductive Mentions (schema : Schema) (file : SchemaFile) : MessageReference → Prop where
  | bound {id : MessageId} {reference : MessageReference}
      (reachable : id ∈ schema.reachableMessages file)
      (found : schema.reference id = .ok reference) : Mentions schema file reference
  | request {service : Service} {method : Method} {contract : MethodContract}
      (serviceMember : service ∈ file.services) (methodMember : method ∈ service.methods)
      (found : MethodContract.ofMethod schema method = .ok contract) :
      Mentions schema file contract.request
  | response {service : Service} {method : Method} {contract : MethodContract}
      (serviceMember : service ∈ file.services) (methodMember : method ∈ service.methods)
      (found : MethodContract.ofMethod schema method = .ok contract) :
      Mentions schema file contract.response

/-- The aliases that are bound by imports. -/
def boundAliases (imports : List Item) : List Text :=
  imports.filterMap fun
    | .namespaceImport name _ => some name
    | _ => none

/-- Every alias that a mentioned message is qualified by is bound. -/
def ImportCorrect (schema : Schema) (file : SchemaFile) (imports : List Item) : Prop :=
  ∀ reference, Mentions schema file reference →
    qualifier reference.objectPath ∈ boundAliases imports

namespace Schema

/-- The paths of the files whose messages are imported. -/
def importedPaths (schema : Schema) (file : SchemaFile) : List Text :=
  (if file.messages.isEmpty then [] else [file.path]) ++
    file.dependencies.map fun dependency => (schema.file dependency).path

theorem imports_eq (schema : Schema) (file : SchemaFile) (options : Options) :
    schema.imports file options = .namespaceImport runtimeAlias options.runtimeModule ::
      (schema.importedPaths file).map (messageImport file.path) := by
  rw [imports, importedPaths, List.map_append, List.map_map]
  cases file.messages <;> rfl

theorem boundAliases_imports (schema : Schema) (file : SchemaFile) (options : Options) :
    boundAliases (schema.imports file options) =
      runtimeAlias :: (schema.importedPaths file).map moduleAlias := by
  have others (paths : List Text) :
      boundAliases (paths.map (messageImport file.path)) = paths.map moduleAlias := by
    rw [boundAliases, List.filterMap_map]
    exact congrFun List.filterMap_eq_map paths
  rw [imports_eq, ← others]
  rfl

theorem alias_bound_iff (schema : Schema) (file : SchemaFile) (options : Options) (path : Text) :
    moduleAlias path ∈ boundAliases (schema.imports file options) ↔
      ∃ imported ∈ schema.importedPaths file, SchemaPath.stem imported = SchemaPath.stem path := by
  rw [boundAliases_imports, List.mem_cons, List.mem_map]
  simp only [moduleAlias_eq_iff, moduleAlias_ne_runtimeAlias, false_or]

variable {descriptors : List FileDescriptor} {schema : Schema} {id : FileId}

/-- The messages that are mentioned are those that the methods exchange. -/
theorem mentions_iff (accepted : ofDescriptors descriptors = .ok schema)
    (known : id.index < schema.files.length) {reference : MessageReference} :
    Mentions schema (schema.file id) reference ↔
      ∃ message ∈ exchangedMessages (schema.file id), schema.reference message = .ok reference := by
  constructor
  · intro mentioned
    cases mentioned with
    | bound reachable found => exact ⟨_, exchanged_of_reachable reachable, found⟩
    | request serviceMember methodMember found =>
        obtain ⟨contract, same, request, _⟩ :=
          methodContract_of_method accepted known serviceMember methodMember
        obtain rfl := Except.ok.inj (found.symm.trans same)
        exact ⟨_, mem_exchangedMessages.mpr ⟨_, serviceMember, _, methodMember, .inl rfl⟩, request⟩
    | response serviceMember methodMember found =>
        obtain ⟨contract, same, _, response⟩ :=
          methodContract_of_method accepted known serviceMember methodMember
        obtain rfl := Except.ok.inj (found.symm.trans same)
        exact ⟨_, mem_exchangedMessages.mpr ⟨_, serviceMember, _, methodMember, .inr rfl⟩, response⟩
  · rintro ⟨message, exchanged, found⟩
    obtain ⟨service, serviceMember, method, methodMember, isType⟩ :=
      mem_exchangedMessages.mp exchanged
    obtain ⟨contract, contracted, request, response⟩ :=
      methodContract_of_method accepted known serviceMember methodMember
    rcases isType with rfl | rfl
    · obtain rfl := Except.ok.inj (found.symm.trans request)
      exact .request serviceMember methodMember contracted
    · obtain rfl := Except.ok.inj (found.symm.trans response)
      exact .response serviceMember methodMember contracted

theorem qualifier_of_reference (accepted : ofDescriptors descriptors = .ok schema)
    {message : MessageId} (inRange : message.index < schema.messages.length)
    {reference : MessageReference} (found : schema.reference message = .ok reference) :
    qualifier reference.objectPath =
      moduleAlias (schema.ownerOf (schema.message message)).path := by
  obtain ⟨other, name, same, path⟩ := reference_of_known accepted inRange
  obtain rfl := Except.ok.inj (found.symm.trans same)
  rw [path, qualifier_of_alias]

theorem importCorrect_imports_iff (accepted : ofDescriptors descriptors = .ok schema)
    (known : id.index < schema.files.length) (options : Options) :
    ImportCorrect schema (schema.file id) (schema.imports (schema.file id) options) ↔
      ∀ message ∈ exchangedMessages (schema.file id),
        ∃ imported ∈ schema.importedPaths (schema.file id),
          SchemaPath.stem imported =
            SchemaPath.stem (schema.ownerOf (schema.message message)).path := by
  constructor
  · intro correct message exchanged
    have inRange := exchanged_known accepted known exchanged
    obtain ⟨reference, _, found, _⟩ := reference_of_known accepted inRange
    have bound := correct reference ((mentions_iff accepted known).mpr ⟨message, exchanged, found⟩)
    rw [qualifier_of_reference accepted inRange found] at bound
    exact (schema.alias_bound_iff _ options _).mp bound
  · intro covered reference mentioned
    obtain ⟨message, exchanged, found⟩ := (mentions_iff accepted known).mp mentioned
    rw [qualifier_of_reference accepted (exchanged_known accepted known exchanged) found]
    exact (schema.alias_bound_iff _ options _).mpr (covered message exchanged)

/-- A message of the file itself or of one of its dependencies is covered. -/
theorem importedPaths_of_near (accepted : ofDescriptors descriptors = .ok schema)
    {message : MessageId} (inRange : message.index < schema.messages.length)
    (near : (schema.message message).owner = id ∨
      (schema.message message).owner ∈ (schema.file id).dependencies) :
    (schema.ownerOf (schema.message message)).path ∈ schema.importedPaths (schema.file id) := by
  rw [importedPaths, List.mem_append]
  rcases near with rfl | dependency
  · have declares := ownerOf_messages_ne_nil accepted inRange
    rw [ownerOf] at declares ⊢
    rw [if_neg (by simpa using declares)]
    exact .inl (List.mem_singleton_self _)
  · exact .inr (List.mem_map_of_mem dependency)

/-- A module is correct whose methods exchange only messages of its own file and its
dependencies. -/
theorem importCorrect_of_near (accepted : ofDescriptors descriptors = .ok schema)
    (known : id.index < schema.files.length) (options : Options)
    (near : ∀ message ∈ exchangedMessages (schema.file id),
      (schema.message message).owner = id ∨
        (schema.message message).owner ∈ (schema.file id).dependencies) :
    ImportCorrect schema (schema.file id) (schema.imports (schema.file id) options) := by
  rw [importCorrect_imports_iff accepted known]
  intro message exchanged
  exact ⟨_, importedPaths_of_near accepted (exchanged_known accepted known exchanged)
    (near message exchanged), rfl⟩

/-- A generated module is correct exactly if a file with the stem of its owner is imported for every
message that the methods exchange. -/
theorem importCorrect_iff_stems_imported (accepted : ofDescriptors descriptors = .ok schema)
    (known : id.index < schema.files.length) {options : Options} {generated : GeneratedFile}
    (succeeds : schema.generate id options = .ok generated) :
    ∃ imports, schema.importBlock (schema.file id) options = .ok imports ∧
      (ImportCorrect schema (schema.file id) imports ↔
        ∀ message ∈ exchangedMessages (schema.file id),
          ∃ imported ∈ schema.importedPaths (schema.file id),
            SchemaPath.stem imported =
              SchemaPath.stem (schema.ownerOf (schema.message message)).path) := by
  obtain ⟨_, fine⟩ := (generate_ok_iff accepted known).mp ⟨generated, succeeds⟩
  exact ⟨_, schema.importBlock_of_fine _ options fine,
    importCorrect_imports_iff accepted known options⟩

/-- The service of the last file takes a message of the first, on which only the second depends. -/
def relays : List FileDescriptor :=
  [
    {
      name := some "a.proto", package := none, dependencies := []
      messages := [.mk (some "A") []]
      services := [], locations := none
    },
    {
      name := some "b.proto", package := none, dependencies := ["a.proto"]
      messages := [.mk (some "B") []]
      services := [], locations := none
    },
    {
      name := some "c.proto", package := none, dependencies := ["b.proto"]
      messages := []
      services :=
        [
          {
            name := some "Relay"
            methods :=
              [
                {
                  name := some "Send", input := some ".A", output := some ".B"
                  clientStreaming := none, serverStreaming := none
                }
              ]
          }
        ]
      locations := none
    }
  ]

theorem relays_accepted : ofDescriptors relays = .ok (Registry.listing relays).schemaOf := rfl

theorem relays_generated :
    ∃ generated, (Registry.listing relays).schemaOf.generate ⟨2⟩ {} = .ok generated := by
  have known : 2 < (Registry.listing relays).schemaOf.files.length := by decide
  exact (generate_ok_iff relays_accepted known).mpr (by decide)

theorem importCorrect_iff_relays :
    ∃ schema generated, ofDescriptors relays = .ok schema ∧ 2 < schema.files.length ∧
      schema.generate ⟨2⟩ {} = .ok generated ∧
      ∃ imports, schema.importBlock (schema.file ⟨2⟩) {} = .ok imports ∧
        (ImportCorrect schema (schema.file ⟨2⟩) imports ↔
          ∀ message ∈ exchangedMessages (schema.file ⟨2⟩),
            ∃ imported ∈ schema.importedPaths (schema.file ⟨2⟩),
              SchemaPath.stem imported =
                SchemaPath.stem (schema.ownerOf (schema.message message)).path) := by
  have known : 2 < (Registry.listing relays).schemaOf.files.length := by decide
  obtain ⟨generated, succeeds⟩ := relays_generated
  exact ⟨_, generated, relays_accepted, known, succeeds,
    importCorrect_iff_stems_imported relays_accepted known succeeds⟩

/-- The message of the first file is mentioned in the last module and not imported. -/
theorem relays_not_importCorrect :
    ∃ schema generated imports, ofDescriptors relays = .ok schema ∧
      schema.generate ⟨2⟩ {} = .ok generated ∧
      schema.importBlock (schema.file ⟨2⟩) {} = .ok imports ∧
      ¬ ImportCorrect schema (schema.file ⟨2⟩) imports := by
  have known : 2 < (Registry.listing relays).schemaOf.files.length := by decide
  obtain ⟨generated, succeeds⟩ := relays_generated
  refine ⟨_, generated, _, relays_accepted, succeeds, rfl, ?_⟩
  intro correct
  have mentioned := (mentions_iff relays_accepted known).mpr ⟨⟨0⟩, by decide, rfl⟩
  exact absurd (correct _ mentioned) (by decide)

end Schema
end GrpcBindings

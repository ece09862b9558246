import GrpcBindings.Proofs.ImportCorrectness
import GrpcBindings.Proofs.SchemaPath

/-!
What import specifiers lead to. A specifier is followed from the directory of the module that it is
in, and it ends at the module with the messages of the file that the import stands for. So an alias
that qualifies a message of the file itself or of a dependency is bound to the module of its owner.
-/

namespace GrpcBindings

/-- In the module of a file, a specifier leads to the messages of the schema file with a path. -/
def LeadsTo (file : SchemaFile) (specifier path : Text) : Prop :=
  SchemaPath.resolve? (SchemaPath.directory (SchemaPath.serviceFile file.path)) specifier =
    some (SchemaPath.messageModule path)

theorem leadsTo_of_check (file : SchemaFile) {path : Text}
    (fine : SchemaPath.check path = .ok ()) :
    LeadsTo file (SchemaPath.relative file.path (SchemaPath.messageModule path)) path := by
  rw [LeadsTo, SchemaPath.directory_serviceFile]
  exact SchemaPath.resolve?_relative file.path (SchemaPath.isName_messageModule fine)

/-- Where a specifier leads depends on the stem alone. -/
theorem LeadsTo.of_stem_eq {file : SchemaFile} {specifier path other : Text}
    (leads : LeadsTo file specifier path)
    (same : SchemaPath.stem path = SchemaPath.stem other) : LeadsTo file specifier other := by
  rwa [LeadsTo, SchemaPath.messageModule, ← same]

namespace Schema

/-- What the imports of the module of a file have to lead to. -/
structure ImportsResolve (schema : Schema) (id : FileId) (options : Options)
    (imports : List Item) : Prop where
  /-- After the call library comes one import for each file whose messages are imported. -/
  modules : ∃ messageImports,
    imports = .namespaceImport runtimeAlias options.runtimeModule :: messageImports ∧
      List.Forall₂
        (fun path item => ∃ specifier,
          item = .namespaceImport (moduleAlias path) specifier ∧
            LeadsTo (schema.file id) specifier path)
        (schema.importedPaths (schema.file id)) messageImports
  /-- What an object path begins with is bound, and only to the module of the owner. -/
  messages : ∀ message : MessageId, message.index < schema.messages.length →
    ((schema.message message).owner = id ∨
      (schema.message message).owner ∈ (schema.file id).dependencies) →
    ∃ path,
      objectPath (schema.message message).fullName (schema.ownerOf (schema.message message)).path
        (schema.ownerOf (schema.message message)).package = .ok path ∧
      (∃ specifier, .namespaceImport (qualifier path) specifier ∈ imports) ∧
      ∀ specifier, .namespaceImport (qualifier path) specifier ∈ imports →
        LeadsTo (schema.file id) specifier (schema.ownerOf (schema.message message)).path

variable {descriptors : List FileDescriptor} {schema : Schema} {id : FileId} {options : Options}

theorem check_of_importedPath {file : SchemaFile} (fine : SchemaPath.check file.path = .ok ())
    (others : ∀ dependency ∈ file.dependencies,
      SchemaPath.check (schema.file dependency).path = .ok ()) :
    ∀ path ∈ schema.importedPaths file, SchemaPath.check path = .ok () := by
  rw [importedPaths, List.forall_mem_append, List.forall_mem_map]
  refine ⟨?_, others⟩
  intro path member
  split at member
  · cases member
  · rwa [List.mem_singleton.mp member]

/-- Every import that binds an alias leads where the alias says. -/
theorem leadsTo_of_mem_imports {file : SchemaFile}
    (checked : ∀ path ∈ schema.importedPaths file, SchemaPath.check path = .ok ())
    {path specifier : Text}
    (member : .namespaceImport (moduleAlias path) specifier ∈ schema.imports file options) :
    LeadsTo file specifier path := by
  rw [imports_eq, List.mem_cons] at member
  rcases member with runtime | member
  · exact absurd (Item.namespaceImport.inj runtime).1 (moduleAlias_ne_runtimeAlias path)
  · obtain ⟨imported, importedMember, same⟩ := List.mem_map.mp member
    rw [messageImport, Item.namespaceImport.injEq] at same
    obtain ⟨sameAlias, rfl⟩ := same
    exact (leadsTo_of_check file (checked imported importedMember)).of_stem_eq
      (moduleAlias_eq_iff.mp sameAlias)

/-- The imports of a module lead to the modules that their aliases stand for. -/
theorem imports_resolve (accepted : ofDescriptors descriptors = .ok schema)
    (fine : SchemaPath.check (schema.file id).path = .ok ()) {imports : List Item}
    (found : schema.importBlock (schema.file id) options = .ok imports) :
    schema.ImportsResolve id options imports := by
  rw [importBlock_eq, firstFault_eq_ok, importFaults_eq_nil] at found
  obtain ⟨others, rfl⟩ := found
  have checked := check_of_importedPath fine others
  refine ⟨⟨_, imports_eq schema (schema.file id) options, ?_⟩, ?_⟩
  · rw [List.forall₂_map_right_iff, List.forall₂_same]
    intro path member
    exact ⟨_, rfl, leadsTo_of_check (schema.file id) (checked path member)⟩
  · intro message inRange near
    obtain ⟨name, found⟩ := objectPath_of_known accepted inRange
    have imported := importedPaths_of_near accepted inRange near
    refine ⟨_, found, ?_⟩
    rw [qualifier_of_alias]
    have bound := List.mem_cons_of_mem (.namespaceImport runtimeAlias options.runtimeModule)
      (List.mem_map_of_mem (f := messageImport (schema.file id).path) imported)
    rw [← imports_eq] at bound
    exact ⟨⟨_, bound⟩, fun specifier member => leadsTo_of_mem_imports checked member⟩

/-- The last file lies two directories deep and has no extension. Without theirs, the paths of its
dependencies end in nothing and in two dots. -/
def crossroads : List FileDescriptor :=
  [
    {
      name := some ".proto", package := none, dependencies := []
      messages := [.mk (some "Origin") []]
      services := [], locations := none
    },
    {
      name := some "far/...protodevel", package := some "far", dependencies := []
      messages := [.mk (some "Road") [.mk (some "Sign") []]]
      services := [], locations := none
    },
    {
      name := some "a/b/crossroads", package := some "a.b"
      dependencies := [".proto", "far/...protodevel"]
      messages := [.mk (some "Turn") []]
      services := [], locations := none
    }
  ]

theorem imports_resolve_of_crossroads :
    ∃ schema imports, ofDescriptors crossroads = .ok schema ∧
      SchemaPath.check (schema.file ⟨2⟩).path = .ok () ∧
      schema.importBlock (schema.file ⟨2⟩) {} = .ok imports ∧
      schema.ImportsResolve ⟨2⟩ {} imports := by
  have accepted : ofDescriptors crossroads = .ok (Registry.listing crossroads).schemaOf := rfl
  have fine : SchemaPath.check ((Registry.listing crossroads).schemaOf.file ⟨2⟩).path = .ok () :=
    rfl
  exact ⟨_, _, accepted, fine, rfl, imports_resolve accepted fine rfl⟩

end Schema
end GrpcBindings

import GrpcBindings.Proofs.ImportCorrectness

/-!
What the aliases of an import block stand for. Alias and specifier of a message import are made from
one path, each in its own way, and each of them tells the stem of the path. So no alias stands for
two modules and no module of messages has two aliases, however often a dependency is listed.
-/

namespace GrpcBindings
namespace SchemaPath

theorem relative_eq_iff (source : Text) {first second : Text} :
    relative source first = relative source second ↔ first = second := by
  unfold relative
  split
  · rw [List.append_cancel_left_eq]
  · rw [List.append_cancel_left_eq]

theorem messageModule_eq_iff {first second : Text} :
    messageModule first = messageModule second ↔ stem first = stem second := by
  rw [messageModule, messageModule, List.append_cancel_right_eq]

end SchemaPath

/-- The imports of messages from two paths have one alias exactly if they have one specifier. -/
theorem alias_eq_iff_specifier_eq {importer first second : Text} :
    moduleAlias first = moduleAlias second ↔
      SchemaPath.relative importer (SchemaPath.messageModule first) =
        SchemaPath.relative importer (SchemaPath.messageModule second) := by
  rw [moduleAlias_eq_iff, SchemaPath.relative_eq_iff, SchemaPath.messageModule_eq_iff]

theorem messageImport_eq_iff (importer : Text) {first second : Text} :
    messageImport importer first = messageImport importer second ↔
      SchemaPath.stem first = SchemaPath.stem second := by
  rw [messageImport, messageImport, Item.namespaceImport.injEq, ← alias_eq_iff_specifier_eq,
    and_self, moduleAlias_eq_iff]

/-- What an import among those of messages binds was made from one path. -/
theorem mem_messageImports {importer importAlias specifier : Text} {paths : List Text} :
    .namespaceImport importAlias specifier ∈ paths.map (messageImport importer) ↔
      ∃ path ∈ paths, importAlias = moduleAlias path ∧
        specifier = SchemaPath.relative importer (SchemaPath.messageModule path) := by
  simp only [List.mem_map, messageImport, Item.namespaceImport.injEq, eq_comm]

theorem runtimeAlias_not_mem_messageImports (importer specifier : Text) (paths : List Text) :
    .namespaceImport runtimeAlias specifier ∉ paths.map (messageImport importer) := by
  rw [mem_messageImports]
  rintro ⟨path, _, same, _⟩
  exact moduleAlias_ne_runtimeAlias path same.symm

namespace Schema

/-- What the aliases of an import block tell: the call library comes first, then the messages of the
files whose messages are imported. -/
structure AliasesTellModules (schema : Schema) (file : SchemaFile) (options : Options)
    (messageImports : List Item) (imports : List Item) : Prop where
  block : imports = .namespaceImport runtimeAlias options.runtimeModule :: messageImports
  messages : messageImports = (schema.importedPaths file).map (messageImport file.path)
  runtime : ∀ specifier, .namespaceImport runtimeAlias specifier ∉ messageImports
  /-- Two imports of messages share the alias exactly if they share the specifier. -/
  pairs : ∀ first firstSpecifier second secondSpecifier,
    .namespaceImport first firstSpecifier ∈ messageImports →
    .namespaceImport second secondSpecifier ∈ messageImports →
    (first = second ↔ firstSpecifier = secondSpecifier)
  /-- Files with one stem have one import, and no other files have. -/
  stems : ∀ first second, messageImport file.path first = messageImport file.path second ↔
    SchemaPath.stem first = SchemaPath.stem second
  /-- In the whole block an alias is bound to one module. -/
  single : ∀ importAlias first second, .namespaceImport importAlias first ∈ imports →
    .namespaceImport importAlias second ∈ imports → first = second

variable {schema : Schema} {file : SchemaFile} {options : Options}

theorem specifier_eq_iff {importer first firstSpecifier second secondSpecifier : Text}
    {paths : List Text}
    (member : .namespaceImport first firstSpecifier ∈ paths.map (messageImport importer))
    (otherMember : .namespaceImport second secondSpecifier ∈ paths.map (messageImport importer)) :
    first = second ↔ firstSpecifier = secondSpecifier := by
  obtain ⟨path, _, rfl, rfl⟩ := mem_messageImports.mp member
  obtain ⟨other, _, rfl, rfl⟩ := mem_messageImports.mp otherMember
  exact alias_eq_iff_specifier_eq

/-- The specifier under an alias, be it that of the call library or of messages, is the only one. -/
theorem specifier_unique {importAlias first second : Text}
    (member : .namespaceImport importAlias first ∈ schema.imports file options)
    (otherMember : .namespaceImport importAlias second ∈ schema.imports file options) :
    first = second := by
  have runtime := runtimeAlias_not_mem_messageImports file.path
  rw [imports_eq, List.mem_cons, Item.namespaceImport.injEq] at member otherMember
  rcases member with ⟨rfl, rfl⟩ | member
  · rcases otherMember with ⟨_, rfl⟩ | otherMember
    · rfl
    · exact absurd otherMember (runtime second _)
  · rcases otherMember with ⟨rfl, _⟩ | otherMember
    · exact absurd member (runtime first _)
    · exact (specifier_eq_iff member otherMember).mp rfl

/-- In an import block that is built, no alias stands for two modules. -/
theorem aliases_tell_modules {imports : List Item}
    (built : schema.importBlock file options = .ok imports) :
    ∃ messageImports, schema.AliasesTellModules file options messageImports imports := by
  rw [importBlock_eq, firstFault_eq_ok] at built
  obtain ⟨_, rfl⟩ := built
  exact
    ⟨_, {
      block := imports_eq schema file options
      messages := rfl
      runtime := fun specifier => runtimeAlias_not_mem_messageImports file.path specifier _
      pairs := fun _ _ _ _ => specifier_eq_iff
      stems := fun _ _ => messageImport_eq_iff file.path
      single := fun _ _ _ => specifier_unique
    }⟩

/-- The last file lists one dependency twice, another with the same stem, and a third whose path is
what the alias of the first would be without the escape of the dollar sign. -/
def tills : List FileDescriptor :=
  [
    {
      name := some "pay/till.proto", package := some "pay", dependencies := []
      messages := [.mk (some "Till") []]
      services := [], locations := none
    },
    {
      name := some "pay/till.protodevel", package := some "draft", dependencies := []
      messages := [.mk (some "Till") []]
      services := [], locations := none
    },
    {
      name := some "pay$still.proto", package := none, dependencies := []
      messages := [.mk (some "Till") []]
      services := [], locations := none
    },
    {
      name := some "shop.proto", package := some "shop"
      dependencies :=
        ["pay/till.proto", "pay$still.proto", "pay/till.protodevel", "pay/till.proto"]
      messages := [.mk (some "Sale") []]
      services := [], locations := none
    }
  ]

theorem aliases_tell_modules_tills :
    ∃ schema imports messageImports, ofDescriptors tills = .ok schema ∧
      schema.importBlock (schema.file ⟨3⟩) {} = .ok imports ∧ imports.length = 6 ∧
      schema.AliasesTellModules (schema.file ⟨3⟩) {} messageImports imports := by
  have accepted : ofDescriptors tills = .ok (Registry.listing tills).schemaOf := rfl
  have fine : ∀ dependency ∈ ((Registry.listing tills).schemaOf.file ⟨3⟩).dependencies,
      SchemaPath.check ((Registry.listing tills).schemaOf.file dependency).path = .ok () := by
    decide
  have built := importBlock_of_fine _ _ {} fine
  obtain ⟨messageImports, tell⟩ := aliases_tell_modules built
  exact ⟨_, _, messageImports, accepted, built, rfl, tell⟩

end Schema
end GrpcBindings

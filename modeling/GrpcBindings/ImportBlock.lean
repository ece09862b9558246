import GrpcBindings.Declaration
import GrpcBindings.ModuleAlias
import GrpcBindings.Options
import GrpcBindings.Schema

/-!
The imports of a generated module: the call library, the messages of its own file if there are any,
and the messages of every dependency in the order in which the file lists them.
-/

namespace GrpcBindings

/-- The alias of the call library. Generated types are qualified by it. -/
def runtimeAlias : Text := "grpc"

/-- A name that the call library exports. -/
def runtimeName (name : Text) : Text :=
  runtimeAlias ++ "." ++ name

/-- The import of the messages of one schema file into the module of another. -/
def messageImport (importer imported : Text) : Item :=
  .namespaceImport (moduleAlias imported)
    (SchemaPath.relative importer (SchemaPath.messageModule imported))

namespace Schema

def dependencyImport (schema : Schema) (file : SchemaFile) (dependency : FileId) :
    Except Error Item := do
  let path := (schema.file dependency).path
  SchemaPath.check path
  return messageImport file.path path

def importBlock (schema : Schema) (file : SchemaFile) (options : Options) :
    Except Error (List Item) := do
  let runtime := Item.namespaceImport runtimeAlias options.runtimeModule
  let own := if file.messages.isEmpty then [] else [messageImport file.path file.path]
  let others ← file.dependencies.mapM (schema.dependencyImport file)
  return runtime :: own ++ others

end Schema
end GrpcBindings

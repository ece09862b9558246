import GrpcBindings.Declaration.Layout
import GrpcBindings.MessageBinding
import GrpcBindings.Module.Stage
import GrpcBindings.ServiceContract

/-!
Generated modules. A module is written stage by stage into a sink. A stage that fails ends it, and
what was written before stays in the sink.
-/

namespace GrpcBindings
namespace Module

/-- The first line of every module. -/
def mark (file : SchemaFile) : Text :=
  if file.services.isEmpty then "// GENERATED CODE -- NO SERVICES IN PROTO"
  else "// GENERATED CODE"

def header (file : SchemaFile) : List Item :=
  let block := Comment.block .file .leading file.comments Comment.lineMarker
  [.comment (mark file), .blank] ++ if block.isEmpty then [] else [.comment block, .blank]

def printStage (schema : Schema) (file : SchemaFile) (options : Options) : Stage → Printing Unit
  | .start | .done => pure ()
  | .header => Item.printAll (header file)
  | .imports => do
      Item.printAll (← schema.importBlock file options)
      Item.print .blank
  | .messageBindings =>
      (schema.reachableMessages file).forM fun id => do
        Item.printAll (← schema.messageBindings id)
  | .serviceContracts =>
      file.services.forM fun service => do
        Item.printAll (← schema.serviceContract service)

def print (schema : Schema) (id : FileId) (options : Options) : Printing Unit := do
  let file := schema.file id
  SchemaPath.check file.path
  Stage.all.forM (printStage schema file options)

/-- The sink after the module of a file was written to it, and whether all of it was. -/
def write (schema : Schema) (id : FileId) (options : Options) (sink : Sink) :
    Except Error Unit × Sink :=
  let (result, printer) := print schema id options (.ofSink sink)
  (result, printer.sink)

end Module

structure GeneratedFile where
  name : Text
  content : Text
  deriving DecidableEq, Repr

namespace Schema

def generate (schema : Schema) (id : FileId) (options : Options) : Except Error GeneratedFile :=
  match Module.write schema id options {} with
  | (.error error, _) => .error error
  | (.ok (), sink) =>
      .ok { name := SchemaPath.serviceFile (schema.file id).path, content := sink.written }

def generatePath (schema : Schema) (path : Text) (options : Options) :
    Except Error GeneratedFile := do
  schema.generate (← schema.fileId path) options

end Schema
end GrpcBindings

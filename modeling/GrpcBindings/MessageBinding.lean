import GrpcBindings.Declaration
import GrpcBindings.MessageReference

/-!
The messages that the methods of a file exchange, and the two functions declared for each of them.
-/

namespace GrpcBindings
namespace Schema

/-- Puts a message at its place by full name. It replaces one with its own full name. -/
def insertByName (fullName : Text) (id : MessageId) :
    List (Text × MessageId) → List (Text × MessageId)
  | [] => [(fullName, id)]
  | head :: tail =>
      if fullName < head.1 then (fullName, id) :: head :: tail
      else if fullName = head.1 then (fullName, id) :: tail
      else head :: insertByName fullName id tail

def exchangedMessages (file : SchemaFile) : List MessageId :=
  (file.services.flatMap (·.methods)).flatMap fun method => [method.input, method.output]

/-- The messages that the methods of a file take or give, in the order of their full names. -/
def reachableMessages (schema : Schema) (file : SchemaFile) : List MessageId :=
  let sorted := (exchangedMessages file).foldl
    (fun sorted id => insertByName (schema.message id).fullName id sorted) []
  sorted.map (·.2)

end Schema

namespace MessageReference

def serializerItem (message : MessageReference) : Item :=
  .function message.serializer [{ name := "arg", type := message.objectPath }] "any"
    ["return Buffer.from(arg.serializeBinary());"]

def deserializerItem (message : MessageReference) : Item :=
  .function message.deserializer [{ name := "buffer_arg", type := "any" }] "any"
    ["return " ++ message.objectPath ++ ".deserializeBinary(new Uint8Array(buffer_arg));"]

end MessageReference

namespace Schema

def messageBindings (schema : Schema) (id : MessageId) : Except Error (List Item) := do
  let message ← schema.reference id
  return [message.serializerItem, .blank, message.deserializerItem, .blank]

end Schema
end GrpcBindings

import GrpcBindings.Identifier
import GrpcBindings.ObjectPath
import GrpcBindings.Schema

/-!
What generated code needs to name of a message: its class and the two functions that convert it.
-/

namespace GrpcBindings

structure MessageReference where
  objectPath : Text
  serializer : Text
  deserializer : Text
  deriving DecidableEq, Repr

namespace Schema

def reference (schema : Schema) (id : MessageId) : Except Error MessageReference := do
  let message := schema.message id
  let owner := schema.ownerOf message
  return {
    objectPath := ← objectPath message.fullName owner.path owner.package
    serializer := "serialize_" ++ flatName message.fullName
    deserializer := "deserialize_" ++ flatName message.fullName
  }

end Schema
end GrpcBindings

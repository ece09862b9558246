import GrpcBindings.Text.Quoted

/-!
Why bindings cannot be generated, and how each cause is worded.
-/

namespace GrpcBindings

inductive ErrorKind where
  | configuration
  | schema
  | generation
  | transport
  deriving DecidableEq, Repr

namespace ErrorKind

def name : ErrorKind → Text
  | configuration => "configuration"
  | schema => "schema"
  | generation => "generation"
  | transport => "transport"

end ErrorKind

inductive Error where
  | configuration (reason : Text)
  | duplicateFile (path : Text)
  /-- The message is declared in two files, or twice in one. -/
  | duplicateMessage (message first second : Text)
  | unknownFile (path : Text)
  | missingDependency (file dependency : Text)
  | unknownMessageType (method typeName : Text)
  | packageMismatch (message package : Text)
  | invalidPath (path reason : Text)
  /-- The output took no more text. -/
  | format
  | malformedRequest (reason : Text)
  deriving DecidableEq, Repr

namespace Error

def kind : Error → ErrorKind
  | configuration _ => .configuration
  | duplicateFile _ | duplicateMessage .. | unknownFile _ | missingDependency ..
  | unknownMessageType .. => .schema
  | packageMismatch .. | invalidPath .. | format => .generation
  | malformedRequest _ => .transport

def message : Error → Text
  | configuration reason => "configuration error: " ++ reason
  | duplicateFile path => "duplicate schema file: " ++ path
  | duplicateMessage message first second =>
      "message " ++ message ++ " is declared in both " ++ first ++ " and " ++ second
  | unknownFile path => "unknown schema file: " ++ path
  | missingDependency file dependency =>
      file ++ ": dependency " ++ dependency ++ " is not part of the descriptor set"
  | unknownMessageType method typeName =>
      "method " ++ method ++ " references unknown message type " ++ typeName
  | packageMismatch message package =>
      "message " ++ message ++ " is not qualified by its package " ++ package
  | invalidPath path reason => "invalid schema path " ++ path.quoted ++ ": " ++ reason
  | format => "failed to write generated code"
  | malformedRequest reason => "failed to decode request: " ++ reason

end Error
end GrpcBindings

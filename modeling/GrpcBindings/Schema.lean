import GrpcBindings.CallMode
import GrpcBindings.Comment
import GrpcBindings.Error
import GrpcBindings.NameIndex

/-!
Resolved schemas: files in the order of their descriptors and the messages they declare, each known
by its position, with every name that a file mentions replaced by such a position. Two indexes lead
from paths and from full names to the positions.
-/

namespace GrpcBindings

structure FileId where
  index : Nat
  deriving DecidableEq, Repr, Inhabited

structure MessageId where
  index : Nat
  deriving DecidableEq, Repr, Inhabited

structure MessageType where
  fullName : Text
  owner : FileId
  deriving DecidableEq, Repr, Inhabited

structure Method where
  name : Text
  input : MessageId
  output : MessageId
  mode : CallMode
  comments : Option SourceComments
  deriving DecidableEq, Repr

structure Service where
  name : Text
  fullName : Text
  methods : List Method
  comments : Option SourceComments
  deriving DecidableEq, Repr

structure SchemaFile where
  path : Text
  package : Text
  /-- The messages that are nested in no other. -/
  messages : List MessageId
  services : List Service
  dependencies : List FileId
  comments : Option SourceComments
  deriving DecidableEq, Repr, Inhabited

structure Schema where
  files : List SchemaFile
  messages : List MessageType
  fileIndex : NameIndex FileId
  messageIndex : NameIndex MessageId
  deriving DecidableEq, Repr

/-- A name within a scope. The empty scope adds nothing. -/
def qualify (scope name : Text) : Text :=
  if scope = [] then name else scope ++ "." ++ name

/-- A type name without the dot that marks it as fully qualified. -/
def dropLeadingDot : Text → Text
  | '.' :: rest => rest
  | name => name

namespace Schema

def file (schema : Schema) (id : FileId) : SchemaFile :=
  schema.files.getD id.index default

def message (schema : Schema) (id : MessageId) : MessageType :=
  schema.messages.getD id.index default

def ownerOf (schema : Schema) (message : MessageType) : SchemaFile :=
  schema.file message.owner

def fileId (schema : Schema) (path : Text) : Except Error FileId :=
  match schema.fileIndex.find? path with
  | some id => .ok id
  | none => .error (.unknownFile path)

def messageId? (schema : Schema) (typeName : Text) : Option MessageId :=
  schema.messageIndex.find? (dropLeadingDot typeName)

end Schema
end GrpcBindings

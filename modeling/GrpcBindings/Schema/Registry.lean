import GrpcBindings.Schema

/-!
The declarations of a list of descriptors: its files and its messages, nested ones after the message
around them. No two files share a path and no two messages a full name.
-/

namespace GrpcBindings

structure RegisteredFile where
  descriptor : FileDescriptor
  /-- The messages that are nested in no other. -/
  messages : List MessageId

/-- The messages that are declared, and where each full name stands among them. -/
structure MessageTable where
  messages : List MessageType
  messageIndex : NameIndex MessageId

structure Registry extends MessageTable where
  files : List RegisteredFile
  fileIndex : NameIndex FileId

/-- A full name that is declared again, and its first owner. -/
structure Clash where
  fullName : Text
  owner : FileId

namespace MessageTable

def message (table : MessageTable) (id : MessageId) : MessageType :=
  table.messages.getD id.index default

def declare (owner : FileId) (fullName : Text) (table : MessageTable) :
    Except Clash (MessageId × MessageTable) :=
  let id : MessageId := ⟨table.messages.length⟩
  match table.messageIndex.insert fullName id with
  | (_, some earlier) => .error ⟨fullName, (table.message earlier).owner⟩
  | (messageIndex, none) =>
      .ok (id, { messages := table.messages ++ [⟨fullName, owner⟩], messageIndex })

mutual

/-- Declares a message, then those nested in it. -/
def declareMessage (owner : FileId) (scope : Text) :
    MessageDescriptor → MessageTable → Except Clash (MessageId × MessageTable)
  | .mk name nested, table =>
      let fullName := qualify scope (name.getD [])
      match table.declare owner fullName with
      | .error clash => .error clash
      | .ok (id, table) =>
          match declareMessages owner fullName nested table with
          | .error clash => .error clash
          | .ok (_, table) => .ok (id, table)

def declareMessages (owner : FileId) (scope : Text) :
    List MessageDescriptor → MessageTable → Except Clash (List MessageId × MessageTable)
  | [], table => .ok ([], table)
  | first :: rest, table =>
      match declareMessage owner scope first table with
      | .error clash => .error clash
      | .ok (id, table) =>
          match declareMessages owner scope rest table with
          | .error clash => .error clash
          | .ok (ids, table) => .ok (id :: ids, table)

end

end MessageTable

namespace Registry

def empty : Registry where
  files := []
  messages := []
  fileIndex := {}
  messageIndex := {}

def fileId? (registry : Registry) (path : Text) : Option FileId :=
  registry.fileIndex.find? path

def messageId? (registry : Registry) (fullName : Text) : Option MessageId :=
  registry.messageIndex.find? fullName

/-- The path of a file that is registered, or of the one that comes next. -/
def pathOf (registry : Registry) (next : FileDescriptor) (id : FileId) : Text :=
  ((registry.files.map (·.descriptor) ++ [next]).getD id.index next).path

def add (registry : Registry) (descriptor : FileDescriptor) : Except Error Registry :=
  let id : FileId := ⟨registry.files.length⟩
  match registry.fileIndex.insert descriptor.path id with
  | (_, some _) => .error (.duplicateFile descriptor.path)
  | (fileIndex, none) =>
      match MessageTable.declareMessages id descriptor.packageName descriptor.messages
          registry.toMessageTable with
      | .error clash =>
          .error (.duplicateMessage clash.fullName (registry.pathOf descriptor clash.owner)
            descriptor.path)
      | .ok (ids, table) =>
          .ok { table with files := registry.files ++ [⟨descriptor, ids⟩], fileIndex }

def ofDescriptors (descriptors : List FileDescriptor) : Except Error Registry :=
  descriptors.foldlM add empty

end Registry
end GrpcBindings

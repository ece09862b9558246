import Mathlib.Data.List.GetD
import GrpcBindings.MessageBinding
import GrpcBindings.Proofs.ObjectPath
import GrpcBindings.Proofs.Schema.Acceptance

/-!
What holds of every accepted schema. Its files stand at the positions of their descriptors, and
every position in it leads to the file or the message that the descriptors mention there, so no
look-up by position misses. Every message has an object path.
-/

namespace GrpcBindings
namespace Schema

/-- The path of the file at a position, if there is one. -/
def path? (schema : Schema) (id : FileId) : Option Text :=
  schema.files[id.index]?.map (·.path)

/-- The full name of the message at a position, if there is one. -/
def fullName? (schema : Schema) (id : MessageId) : Option Text :=
  schema.messages[id.index]?.map (·.fullName)

theorem file_of_path? {schema : Schema} {id : FileId} {path : Text}
    (found : schema.path? id = some path) :
    id.index < schema.files.length ∧ (schema.file id).path = path := by
  obtain ⟨_, entry, rfl⟩ := Option.map_eq_some_iff.mp found
  refine ⟨(List.getElem?_eq_some_iff.mp entry).1, ?_⟩
  rw [file, List.getD_eq_getElem?_getD, entry]
  rfl

theorem message_of_fullName? {schema : Schema} {id : MessageId} {fullName : Text}
    (found : schema.fullName? id = some fullName) :
    id.index < schema.messages.length ∧ (schema.message id).fullName = fullName := by
  obtain ⟨_, entry, rfl⟩ := Option.map_eq_some_iff.mp found
  refine ⟨(List.getElem?_eq_some_iff.mp entry).1, ?_⟩
  rw [message, List.getD_eq_getElem?_getD, entry]
  rfl

end Schema

namespace Registry

variable {files : List FileDescriptor}

theorem mem_listing_messages {message : MessageType} :
    message ∈ (listing files).messages ↔
      ∃ file, files[message.owner.index]? = some file ∧ message.fullName ∈ file.fullNames := by
  rw [listing_messages, List.mem_flatMap]
  constructor
  · rintro ⟨⟨file, position⟩, member, owned⟩
    obtain ⟨fullName, declared, rfl⟩ := List.mem_map.mp owned
    exact ⟨file, List.mem_zipIdx_iff_getElem?.mp member, declared⟩
  · rintro ⟨file, found, declared⟩
    exact ⟨(file, message.owner.index), List.mem_zipIdx_iff_getElem?.mpr found,
      List.mem_map.mpr ⟨message.fullName, declared, rfl⟩⟩

/-- The file at the position of a descriptor is what the registry makes of the descriptor. -/
theorem schemaOf_file {position : Nat} {file : FileDescriptor}
    (found : files[position]? = some file) :
    ∃ messages : List MessageId,
      List.Forall₂
        (fun id message => (listing files).messages[id.index]? =
          some ⟨message.fullName file.packageName, ⟨position⟩⟩)
        messages file.messages ∧
      (listing files).schemaOf.file ⟨position⟩ = (listing files).fileOf ⟨file, messages⟩ := by
  have descriptors := congrArg (·[position]?) (listing_descriptors files)
  simp only [List.getElem?_map, found, Option.map_eq_some_iff] at descriptors
  obtain ⟨⟨_, messages⟩, registered, rfl⟩ := descriptors
  refine ⟨messages, listing_topLevel files _ _ registered, ?_⟩
  rw [Schema.file, schemaOf, List.getD_eq_getElem?_getD, List.getElem?_map, registered]
  rfl

theorem schemaOf_paths : (listing files).schemaOf.files.map (·.path) = files.map (·.path) := by
  conv_rhs => rw [← listing_descriptors files, List.map_map]
  rw [schemaOf, List.map_map]
  rfl

theorem schemaOf_files_length : (listing files).schemaOf.files.length = files.length := by
  rw [schemaOf, List.length_map, listing_files_length]

theorem fileId_schemaOf (path : Text) :
    (listing files).schemaOf.fileId path =
      match (files.map FileDescriptor.path).findIdx? fun known => known = path with
      | some position => .ok ⟨position⟩
      | none => .error (.unknownFile path) := by
  have found := fileId?_listing files path
  rw [fileId?] at found
  rw [Schema.fileId, schemaOf, found]
  cases (files.map FileDescriptor.path).findIdx? fun known => known = path <;> rfl

theorem messageId?_schemaOf (fullName : Text) :
    (listing files).schemaOf.messageId? ('.' :: fullName) =
      ((files.flatMap FileDescriptor.fullNames).findIdx? fun known =>
        known = fullName).map .mk :=
  messageId?_listing files fullName

theorem dependencyId_listing {path : Text} (declared : path ∈ files.map FileDescriptor.path) :
    (listing files).schemaOf.path? ((listing files).dependencyId path) = some path := by
  obtain ⟨position, found, entry⟩ := Text.findIdx?_of_mem declared
  rw [← schemaOf_paths, List.getElem?_map] at entry
  rw [dependencyId, fileId?_listing, found]
  exact entry

theorem typeId_listing {typeName : Text}
    (declared : dropLeadingDot typeName ∈ files.flatMap FileDescriptor.fullNames) :
    (listing files).schemaOf.fullName? ((listing files).typeId typeName) =
      some (dropLeadingDot typeName) := by
  obtain ⟨position, found, entry⟩ := Text.findIdx?_of_mem declared
  rw [← listing_fullNames, List.getElem?_map] at entry
  rw [typeId, messageId?_listing, found]
  exact entry

end Registry

namespace Schema

open Registry

variable {descriptors : List FileDescriptor} {schema : Schema}

theorem schemaOf_of_accepted (accepted : ofDescriptors descriptors = .ok schema) :
    (listing descriptors).schemaOf = schema :=
  (ofDescriptors_eq_ok.mp accepted).2

theorem files_length_of_accepted (accepted : ofDescriptors descriptors = .ok schema) :
    schema.files.length = descriptors.length := by
  rw [← schemaOf_of_accepted accepted, schemaOf_files_length]

theorem fullNamesDistinct_of_accepted (accepted : ofDescriptors descriptors = .ok schema) :
    (schema.messages.map (·.fullName)).Nodup := by
  rw [← schemaOf_of_accepted accepted, schemaOf, listing_fullNames]
  exact (consistent_of_ofDescriptors accepted).fullNamesDistinct

/-- A look-up by path finds the one file that has the path. -/
theorem fileId_eq_ok_iff (accepted : ofDescriptors descriptors = .ok schema) (path : Text)
    (id : FileId) : schema.fileId path = .ok id ↔ schema.path? id = some path := by
  have distinct := (consistent_of_ofDescriptors accepted).pathsDistinct
  obtain rfl := schemaOf_of_accepted accepted
  obtain ⟨index⟩ := id
  rw [path?, ← List.getElem?_map, schemaOf_paths,
    ← Text.findIdx?_eq_some_iff distinct path index, fileId_schemaOf]
  cases (descriptors.map FileDescriptor.path).findIdx? fun known => known = path <;> simp

/-- A look-up by full name finds the one message that has the full name. -/
theorem messageId?_eq_some_iff (accepted : ofDescriptors descriptors = .ok schema)
    (fullName : Text) (id : MessageId) :
    schema.messageId? ('.' :: fullName) = some id ↔ schema.fullName? id = some fullName := by
  have distinct := (consistent_of_ofDescriptors accepted).fullNamesDistinct
  obtain rfl := schemaOf_of_accepted accepted
  obtain ⟨index⟩ := id
  have fullNames : (listing descriptors).schemaOf.messages.map (·.fullName) =
      descriptors.flatMap (·.fullNames) :=
    listing_fullNames descriptors
  rw [fullName?, ← List.getElem?_map, fullNames,
    ← Text.findIdx?_eq_some_iff distinct fullName index, messageId?_schemaOf]
  cases (descriptors.flatMap FileDescriptor.fullNames).findIdx? fun known => known = fullName <;>
    simp

/-- Among distinct values each tells the position that it is made from. -/
theorem index_eq_of_nodup_map {α β : Type} {f : α → β} {xs : List α} {d : α}
    (distinct : (xs.map f).Nodup) {i j : Nat} (within : i < xs.length)
    (otherWithin : j < xs.length) (same : f (xs.getD i d) = f (xs.getD j d)) : i = j := by
  rw [List.getD_eq_getElem xs d within, List.getD_eq_getElem xs d otherWithin] at same
  have known : i < (xs.map f).length := by rwa [List.length_map]
  have otherKnown : j < (xs.map f).length := by rwa [List.length_map]
  have values : (xs.map f)[i] = (xs.map f)[j] := by rwa [List.getElem_map, List.getElem_map]
  exact distinct.getElem_inj_iff.mp values

/-- A full name belongs to one message. -/
theorem eq_of_fullName_eq (accepted : ofDescriptors descriptors = .ok schema) {id other : MessageId}
    (known : id.index < schema.messages.length) (otherKnown : other.index < schema.messages.length)
    (same : (schema.message id).fullName = (schema.message other).fullName) : id = other := by
  cases id
  cases other
  exact congrArg MessageId.mk
    (index_eq_of_nodup_map (fullNamesDistinct_of_accepted accepted) known otherKnown same)

/-- A file has the path, the package and the dependencies of the descriptor at its position. -/
theorem file_of_accepted (accepted : ofDescriptors descriptors = .ok schema) {position : Nat}
    {file : FileDescriptor} (found : descriptors[position]? = some file) :
    (schema.file ⟨position⟩).path = file.path ∧
      (schema.file ⟨position⟩).package = file.packageName ∧
      (schema.file ⟨position⟩).dependencies.map (fun id => (schema.file id).path) =
        file.dependencies := by
  obtain rfl := schemaOf_of_accepted accepted
  have declared := (consistent_of_ofDescriptors accepted).dependenciesDeclared file
    (List.mem_of_getElem? found)
  obtain ⟨_, _, same⟩ := schemaOf_file found
  rw [same]
  refine ⟨rfl, rfl, ?_⟩
  rw [fileOf, List.map_map]
  conv_rhs => rw [← List.map_id file.dependencies]
  apply List.map_congr_left
  intro dependency member
  exact (file_of_path? (dependencyId_listing (List.mem_map.mpr (declared dependency member)))).2

theorem exists_descriptor (accepted : ofDescriptors descriptors = .ok schema) {id : FileId}
    (known : id.index < schema.files.length) :
    ∃ file, descriptors[id.index]? = some file := by
  rw [files_length_of_accepted accepted] at known
  exact ⟨_, List.getElem?_eq_getElem known⟩

/-- A path leads to the position of the descriptor that has it. -/
theorem fileId_of_accepted (accepted : ofDescriptors descriptors = .ok schema)
    {file : FileDescriptor} (member : file ∈ descriptors) :
    ∃ position, schema.fileId file.path = .ok ⟨position⟩ ∧
      descriptors[position]? = some file := by
  obtain ⟨position, entry⟩ := List.mem_iff_getElem?.mp member
  refine ⟨position, ?_, entry⟩
  rw [fileId_eq_ok_iff accepted, path?, ← List.getElem?_map,
    ← schemaOf_of_accepted accepted, schemaOf_paths, List.getElem?_map, entry]
  rfl

theorem fileId_of_absent (accepted : ofDescriptors descriptors = .ok schema) {path : Text}
    (absent : path ∉ descriptors.map FileDescriptor.path) :
    schema.fileId path = .error (.unknownFile path) := by
  obtain rfl := schemaOf_of_accepted accepted
  have missing : ((descriptors.map FileDescriptor.path).findIdx? fun known => known = path) =
      none := by
    rw [List.findIdx?_eq_none_iff]
    intro known member
    exact decide_eq_false fun same => absent (same ▸ member)
  rw [fileId_schemaOf, missing]

theorem mem_exchangedMessages {file : SchemaFile} {id : MessageId} :
    id ∈ exchangedMessages file ↔
      ∃ service ∈ file.services, ∃ method ∈ service.methods,
        id = method.input ∨ id = method.output := by
  simp only [exchangedMessages, List.mem_flatMap, List.mem_cons, List.not_mem_nil, or_false]
  constructor
  · rintro ⟨method, ⟨service, member, declared⟩, same⟩
    exact ⟨service, member, method, declared, same⟩
  · rintro ⟨service, member, method, declared, same⟩
    exact ⟨method, ⟨service, member, declared⟩, same⟩

theorem file_mem_of_known {id : FileId} (known : id.index < schema.files.length) :
    schema.file id ∈ schema.files := by
  rw [file, List.getD_eq_getElem?_getD, List.getElem?_eq_getElem known]
  exact List.getElem_mem known

theorem getElem?_message {id : MessageId} (known : id.index < schema.messages.length) :
    schema.messages[id.index]? = some (schema.message id) := by
  rw [message, List.getD_eq_getElem _ _ known, List.getElem?_eq_getElem known]

theorem message_mem_of_known {id : MessageId} (known : id.index < schema.messages.length) :
    schema.message id ∈ schema.messages :=
  List.mem_of_getElem? (getElem?_message known)

/-- Every message is declared in some file. -/
theorem declared_of_known (accepted : ofDescriptors descriptors = .ok schema) {id : MessageId}
    (known : id.index < schema.messages.length) :
    ∃ file ∈ descriptors, (schema.message id).fullName ∈ file.fullNames := by
  obtain rfl := schemaOf_of_accepted accepted
  obtain ⟨file, found, declared⟩ := mem_listing_messages.mp (message_mem_of_known known)
  exact ⟨file, List.mem_of_getElem? found, declared⟩

/-- The message with a full name belongs to the file that declares the name. -/
theorem ownerOf_of_declared (accepted : ofDescriptors descriptors = .ok schema)
    {file : FileDescriptor} (member : file ∈ descriptors) {fullName : Text}
    (declared : fullName ∈ file.fullNames) {id : MessageId}
    (named : schema.fullName? id = some fullName) :
    (schema.ownerOf (schema.message id)).path = file.path ∧
      (schema.ownerOf (schema.message id)).package = file.packageName := by
  obtain ⟨known, rfl⟩ := message_of_fullName? named
  obtain rfl := schemaOf_of_accepted accepted
  obtain ⟨owner, found, ownerDeclares⟩ := mem_listing_messages.mp (message_mem_of_known known)
  obtain rfl := (consistent_of_ofDescriptors accepted).eq_of_declared (List.mem_of_getElem? found)
    member ownerDeclares declared
  obtain ⟨path, package, _⟩ := file_of_accepted accepted found
  exact ⟨path, package⟩

/-- Every message of an accepted schema has an object path below the alias of its file. -/
theorem objectPath_of_known (accepted : ofDescriptors descriptors = .ok schema) {id : MessageId}
    (known : id.index < schema.messages.length) :
    ∃ name, objectPath (schema.message id).fullName (schema.ownerOf (schema.message id)).path
        (schema.ownerOf (schema.message id)).package =
      .ok (moduleAlias (schema.ownerOf (schema.message id)).path ++ "." ++ name) := by
  obtain rfl := schemaOf_of_accepted accepted
  obtain ⟨file, found, declared⟩ := mem_listing_messages.mp (message_mem_of_known known)
  obtain ⟨name, within⟩ := file.exists_eq_qualify declared
  refine ⟨name, objectPath_eq_ok.mpr ⟨name, ?_, rfl⟩⟩
  rw [ownerOf, (file_of_accepted accepted found).2.1]
  exact within

/-- A file that owns a message has messages that are nested in no other. -/
theorem ownerOf_messages_ne_nil (accepted : ofDescriptors descriptors = .ok schema)
    {id : MessageId} (known : id.index < schema.messages.length) :
    (schema.ownerOf (schema.message id)).messages ≠ [] := by
  obtain rfl := schemaOf_of_accepted accepted
  obtain ⟨file, found, declared⟩ := mem_listing_messages.mp (message_mem_of_known known)
  obtain ⟨messages, topLevel, same⟩ := schemaOf_file found
  rw [ownerOf, same]
  intro (none : messages = [])
  rw [none, List.forall₂_nil_left_iff] at topLevel
  rw [FileDescriptor.fullNames_eq, topLevel] at declared
  cases declared

end Schema
end GrpcBindings

import GrpcBindings.Proofs.Schema.Accepted

/-!
What a schema holds of the descriptors it was made of. Files and messages stand in the order of the
descriptors, a look-up by name finds the one position that has the name, and every position that is
kept somewhere in the schema leads to what the descriptors mention there.
-/

namespace GrpcBindings

/-- The types of a method are those that its descriptor names. -/
structure Method.Represents (schema : Schema) (method : Method) (descriptor : MethodDescriptor) :
    Prop where
  input : schema.fullName? method.input = some (dropLeadingDot (descriptor.input.getD []))
  output : schema.fullName? method.output = some (dropLeadingDot (descriptor.output.getD []))

/-- A method has the name and the types of its descriptor, and the mode that the flags fix. -/
structure Method.ResolvedFrom (schema : Schema) (method : Method) (descriptor : MethodDescriptor) :
    Prop where
  name : method.name = descriptor.name.getD []
  types : method.Represents schema descriptor
  mode : method.mode =
    .ofFlags (descriptor.clientStreaming.getD false) (descriptor.serverStreaming.getD false)

structure Service.ResolvedFrom (schema : Schema) (package : Text) (service : Service)
    (descriptor : ServiceDescriptor) : Prop where
  name : service.name = descriptor.name.getD []
  fullName : service.fullName = descriptor.fullName package
  methods : List.Forall₂ (Method.ResolvedFrom schema) service.methods descriptor.methods

/-- A file has what its descriptor says, and positions in place of names. -/
structure SchemaFile.Represents (schema : Schema) (id : FileId) (file : SchemaFile)
    (descriptor : FileDescriptor) : Prop where
  path : file.path = descriptor.path
  package : file.package = descriptor.packageName
  /-- The messages that are nested in no other, in their order. -/
  messages : List.Forall₂
    (fun message declared => schema.messages[message.index]? =
      some ⟨declared.fullName descriptor.packageName, id⟩)
    file.messages descriptor.messages
  dependencies : List.Forall₂ (fun dependency path => schema.path? dependency = some path)
    file.dependencies descriptor.dependencies
  methods : List.Forall₂
    (fun service declared =>
      List.Forall₂ (Method.Represents schema) service.methods declared.methods)
    file.services descriptor.services

namespace Schema

/-- Every position that is kept in a schema is one of the schema. -/
structure InRange (schema : Schema) : Prop where
  owners : ∀ message ∈ schema.messages, message.owner.index < schema.files.length
  topLevel : ∀ file ∈ schema.files, ∀ id ∈ file.messages, id.index < schema.messages.length
  dependencies : ∀ file ∈ schema.files, ∀ id ∈ file.dependencies, id.index < schema.files.length
  types : ∀ file ∈ schema.files, ∀ service ∈ file.services, ∀ method ∈ service.methods,
    method.input.index < schema.messages.length ∧ method.output.index < schema.messages.length

structure Represents (schema : Schema) (descriptors : List FileDescriptor) : Prop where
  length : schema.files.length = descriptors.length
  files : ∀ position descriptor, descriptors[position]? = some descriptor →
    (schema.file ⟨position⟩).Represents schema ⟨position⟩ descriptor
  /-- All messages, each before those nested in it, with the file that declares them. -/
  messages : schema.messages = descriptors.zipIdx.flatMap fun (descriptor, position) =>
    descriptor.fullNames.map fun fullName => ⟨fullName, ⟨position⟩⟩
  fullNamesDistinct : (schema.messages.map (·.fullName)).Nodup
  fileId : ∀ path id, schema.fileId path = .ok id ↔ schema.path? id = some path
  messageId? : ∀ fullName id,
    schema.messageId? ('.' :: fullName) = some id ↔ schema.fullName? id = some fullName
  inRange : schema.InRange

open Registry

variable {descriptors : List FileDescriptor} {schema : Schema}

/-- What is related to something in a list has what the relation gives it. -/
private theorem forall₂_left {α β : Type} {R : α → β → Prop} {p : α → Prop} {xs : List α}
    {ys : List β} (related : List.Forall₂ R xs ys) (gives : ∀ x y, R x y → p x) :
    ∀ x ∈ xs, p x :=
  ((List.forall₂_and_left xs ys).mp (related.imp fun x y r => ⟨gives x y r, r⟩)).1

/-- What is made of each element and its position is related to the elements. -/
private theorem forall₂_map_zipIdx {α β : Type} {R : β → α → Prop} {make : α × Nat → β}
    (xs : List α) (each : ∀ x ∈ xs, ∀ position, R (make (x, position)) x) :
    List.Forall₂ R (xs.zipIdx.map make) xs := by
  have pairs : List.Forall₂ (fun entry other : α × Nat => R (make entry) other.1)
      xs.zipIdx xs.zipIdx := by
    rw [List.forall₂_same]
    exact fun entry member => each entry.1 (List.fst_mem_of_mem_zipIdx member) entry.2
  rw [← List.forall₂_map_right_iff, ← List.forall₂_map_left_iff, List.zipIdx_map_fst] at pairs
  exact pairs

/-- The services of a file are those of its descriptor, one by one. -/
theorem services_resolvedFrom (accepted : ofDescriptors descriptors = .ok schema) {position : Nat}
    {descriptor : FileDescriptor} (found : descriptors[position]? = some descriptor) :
    List.Forall₂ (Service.ResolvedFrom schema descriptor.packageName)
      (schema.file ⟨position⟩).services descriptor.services := by
  have consistent := consistent_of_ofDescriptors accepted
  have member := List.mem_of_getElem? found
  obtain rfl := schemaOf_of_accepted accepted
  obtain ⟨_, _, same⟩ := schemaOf_file found
  rw [same]
  apply forall₂_map_zipIdx
  intro service serviceMember _
  refine ⟨rfl, qualify_eq_dotted _ _, ?_⟩
  apply forall₂_map_zipIdx
  intro method methodMember _
  have declared := consistent.typesDeclared descriptor member service serviceMember method
    methodMember
  simp only [Text.exists_names_iff] at declared
  rw [List.forall_mem_cons, List.forall_mem_singleton] at declared
  exact ⟨rfl, ⟨typeId_listing declared.1, typeId_listing declared.2⟩, rfl⟩

theorem file_represents (accepted : ofDescriptors descriptors = .ok schema) {position : Nat}
    {descriptor : FileDescriptor} (found : descriptors[position]? = some descriptor) :
    (schema.file ⟨position⟩).Represents schema ⟨position⟩ descriptor := by
  have consistent := consistent_of_ofDescriptors accepted
  have services := services_resolvedFrom accepted found
  obtain rfl := schemaOf_of_accepted accepted
  obtain ⟨messages, topLevel, same⟩ := schemaOf_file found
  rw [same] at services ⊢
  refine ⟨rfl, rfl, topLevel, ?_, ?_⟩
  · rw [fileOf, List.forall₂_map_left_iff, List.forall₂_same]
    intro dependency mentioned
    have declared := consistent.dependenciesDeclared descriptor (List.mem_of_getElem? found)
      dependency mentioned
    exact dependencyId_listing (List.mem_map.mpr declared)
  · exact services.imp fun _ _ service => service.methods.imp fun _ _ method => method.types

theorem exists_represented (accepted : ofDescriptors descriptors = .ok schema) {file : SchemaFile}
    (member : file ∈ schema.files) : ∃ id descriptor, file.Represents schema id descriptor := by
  obtain ⟨position, entry⟩ := List.mem_iff_getElem?.mp member
  have known : (FileId.mk position).index < schema.files.length :=
    (List.getElem?_eq_some_iff.mp entry).1
  obtain ⟨descriptor, found⟩ := exists_descriptor accepted known
  have same : schema.file ⟨position⟩ = file := by
    rw [Schema.file, List.getD_eq_getElem?_getD, entry]
    rfl
  exact ⟨⟨position⟩, descriptor, same ▸ file_represents accepted found⟩

theorem inRange_of_accepted (accepted : ofDescriptors descriptors = .ok schema) :
    schema.InRange := by
  refine ⟨?_, ?_, ?_, ?_⟩
  · intro message member
    rw [files_length_of_accepted accepted]
    obtain rfl := schemaOf_of_accepted accepted
    obtain ⟨_, found, _⟩ := mem_listing_messages.mp member
    exact (List.getElem?_eq_some_iff.mp found).1
  · intro file member
    obtain ⟨_, _, represents⟩ := exists_represented accepted member
    exact forall₂_left represents.messages fun _ _ found => (List.getElem?_eq_some_iff.mp found).1
  · intro file member
    obtain ⟨_, _, represents⟩ := exists_represented accepted member
    exact forall₂_left represents.dependencies fun _ _ found => (file_of_path? found).1
  · intro file member
    obtain ⟨_, _, represents⟩ := exists_represented accepted member
    refine forall₂_left represents.methods fun service _ methods => ?_
    exact forall₂_left methods fun method _ named =>
      ⟨(message_of_fullName? named.input).1, (message_of_fullName? named.output).1⟩

/-- An accepted schema has everything that its descriptors declare, once and in their order, and no
position in it leads nowhere. -/
theorem represents_of_accepted (accepted : ofDescriptors descriptors = .ok schema) :
    schema.Represents descriptors := by
  refine
    {
      length := files_length_of_accepted accepted
      files := fun _ _ found => file_represents accepted found
      messages := ?_
      fullNamesDistinct := fullNamesDistinct_of_accepted accepted
      fileId := fileId_eq_ok_iff accepted
      messageId? := messageId?_eq_some_iff accepted
      inRange := inRange_of_accepted accepted
    }
  rw [← schemaOf_of_accepted accepted, schemaOf, listing_messages]
  rfl

/-- The first file depends twice on the second, which takes a message of the first. -/
def orders : List FileDescriptor :=
  [
    {
      name := some "shop/orders.proto", package := some "shop"
      dependencies := ["common/money.proto", "common/money.proto"]
      messages :=
        [.mk (some "Order") [.mk (some "Line") [.mk (some "Tax") []]], .mk (some "Receipt") []]
      services :=
        [
          {
            name := some "Orders"
            methods :=
              [
                {
                  name := some "Price", input := some ".shop.Order.Line.Tax"
                  output := some "common.Money", clientStreaming := none, serverStreaming := none
                }
              ]
          }
        ]
      locations := none
    },
    {
      name := some "common/money.proto", package := some "common", dependencies := []
      messages := [.mk (some "Money") []]
      services :=
        [
          {
            name := some "Refunds"
            methods :=
              [
                {
                  name := some "Refund", input := some ".shop.Receipt"
                  output := some ".common.Money", clientStreaming := none, serverStreaming := none
                }
              ]
          }
        ]
      locations := none
    }
  ]

theorem represents_of_orders :
    ∃ schema, ofDescriptors orders = .ok schema ∧ schema.Represents orders := by
  have accepted : ofDescriptors orders = .ok (listing orders).schemaOf := rfl
  exact ⟨_, accepted, represents_of_accepted accepted⟩

end Schema
end GrpcBindings

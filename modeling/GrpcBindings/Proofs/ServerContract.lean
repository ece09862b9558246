import GrpcBindings.Proofs.MethodTable
import GrpcBindings.Proofs.Schema.Representation

/-!
What the declarations of a service say to a server. The interface to implement and the table of the
methods are looked up by name among the declarations and read method by method. Both say of each
method what its descriptor says: the messages that it exchanges, which side streams them, and the
path to call it at.
-/

namespace GrpcBindings

namespace Member

def isComment : Member → Bool
  | .comment _ => true
  | _ => false

end Member

namespace Item

def interface? : Item → Option (Text × List Member)
  | .interface name _ members => some (name, members)
  | _ => none

def constant? : Item → Option (Text × Value)
  | .constant name _ value => some (name, value)
  | _ => none

end Item

/-- The members of each interface with a name. -/
def interfaces (items : List Item) (name : Text) : List (List Member) :=
  ((items.filterMap (·.interface?)).filter (·.1 = name)).map (·.2)

/-- The value of each constant with a name. -/
def constants (items : List Item) (name : Text) : List Value :=
  ((items.filterMap (·.constant?)).filter (·.1 = name)).map (·.2)

/-- The value of each field with a name, in the object of an entry. -/
def Entry.fields (entry : Entry) (name : Text) : List Value :=
  (entry.value.entries.filter fun field => field.key = .bare name).map (·.value)

/-- Where names are distinct, a name picks out one thing. -/
theorem map_filter_of_mem {α : Type} {named : List (Text × α)}
    (distinct : (named.map (·.1)).Nodup) {name : Text} {a : α} (member : (name, a) ∈ named) :
    (named.filter (·.1 = name)).map (·.2) = [a] := by
  induction named with
  | nil => cases member
  | cons first rest ih =>
      rw [List.map_cons, List.nodup_cons] at distinct
      obtain ⟨fresh, distinct⟩ := distinct
      rcases List.mem_cons.mp member with rfl | member
      · have others : rest.filter (·.1 = name) = [] := by
          rw [List.filter_eq_nil_iff]
          intro other otherMember same
          exact fresh (List.mem_map.mpr ⟨other, otherMember, of_decide_eq_true same⟩)
        rw [List.filter_cons_of_pos (by simp), others]
        rfl
      · have apart : first.1 ≠ name := by
          rintro rfl
          exact fresh (List.mem_map.mpr ⟨_, member, rfl⟩)
        rw [List.filter_cons_of_neg (by simpa using apart)]
        exact ih distinct member

/-- The type of handlers for methods with the given flags. -/
def handlerFor : (client server : Bool) → Text
  | false, false => "handleUnaryCall"
  | true, false => "handleClientStreamingCall"
  | false, true => "handleServerStreamingCall"
  | true, true => "handleBidiStreamingCall"

/-- A type name stands for a message that one of the files declares, and so for an object path: the
alias of the file and the name of the message within the package. -/
def StandsFor (descriptors : List FileDescriptor) (typeName path : Text) : Prop :=
  ∃ file ∈ descriptors, ∃ name, Text.dotted [file.packageName, name] ∈ file.fullNames ∧
    typeName.Names (Text.dotted [file.packageName, name]) ∧
    path = moduleAlias file.path ++ "." ++ name

/-- The handler of a method and its entry in the table agree with each other and with what the
descriptor says. -/
structure MethodDescriptor.Serves (descriptor : MethodDescriptor) (service request response : Text)
    (handler : Member) (entry : Entry) : Prop where
  key : entry.key = .ofName (lowerFirst (descriptor.name.getD []))
  handler : handler = .property entry.key
    ("grpc." ++
      handlerFor (descriptor.clientStreaming.getD false) (descriptor.serverStreaming.getD false) ++
      "<" ++ request ++ ", " ++ response ++ ">")
  type : ∃ fields, entry.value =
    .cast ("grpc.MethodDefinition<" ++ request ++ ", " ++ response ++ ">") (.object fields)
  path : entry.fields "path" = [.string ("/" ++ service ++ "/" ++ descriptor.name.getD [])]
  requestStream : entry.fields "requestStream" =
    [.boolean (descriptor.clientStreaming.getD false)]
  responseStream : entry.fields "responseStream" =
    [.boolean (descriptor.serverStreaming.getD false)]
  requestType : entry.fields "requestType" = [.identifier request]
  responseType : entry.fields "responseType" = [.identifier response]

/-- The declarations of a service have one interface to implement and one table. Comments aside,
both have one element for each method, in the same order. -/
structure ServiceDescriptor.Serves (descriptor : ServiceDescriptor)
    (descriptors : List FileDescriptor) (package : Text) (items : List Item)
    (handlers : List Member) (entries : List Entry) : Prop where
  interface : ∃ members,
    interfaces items ("I" ++ descriptor.name.getD [] ++ "Implementation") = [members] ∧
      members.filter (!·.isComment) = handlers
  table : constants items (descriptor.name.getD [] ++ "Service") = [.object entries]
  /-- Clients are made for the name that the paths of the methods begin with. -/
  client : constants items (descriptor.name.getD [] ++ "Client") =
    [.cast (descriptor.name.getD [] ++ "ClientConstructor")
      (.call "grpc.makeGenericClientConstructor"
        [
          .identifier (descriptor.name.getD [] ++ "Service"),
          .string (descriptor.fullName package), .object []
        ])]
  length : handlers.length = entries.length
  methods : List.Forall₂
    (fun method (handler, entry) => ∃ request response,
      StandsFor descriptors (method.input.getD []) request ∧
      StandsFor descriptors (method.output.getD []) response ∧
      method.Serves (descriptor.fullName package) request response handler entry)
    descriptor.methods (handlers.zip entries)

namespace CallMode

theorem clientStreams_ofFlags (client server : Bool) :
    (ofFlags client server).clientStreams = client := by
  cases client <;> cases server <;> rfl

theorem serverStreams_ofFlags (client server : Bool) :
    (ofFlags client server).serverStreams = server := by
  cases client <;> cases server <;> rfl

theorem handlerName_ofFlags (client server : Bool) :
    ServiceContract.handlerName (ofFlags client server) = handlerFor client server := by
  cases client <;> cases server <;> rfl

end CallMode

namespace MethodContract

/-- The handler of a method, without the comments around it. -/
def handler (contract : MethodContract) : Member :=
  .property contract.key contract.handlerType

theorem filter_comment (contract : MethodContract) (side : CommentSide) :
    (contract.comment side).filter (!·.isComment) = [] := by
  rw [comment]
  split <;> rfl

theorem filter_handlerMembers (contract : MethodContract) :
    contract.handlerMembers.filter (!·.isComment) = [contract.handler] := by
  rw [handlerMembers, List.filter_append, filter_comment, List.nil_append]
  exact congrArg (contract.handler :: ·) (filter_comment contract .trailing)

end MethodContract

namespace ServiceContract

theorem instantiated_pair (generic first second : Text) :
    instantiated (runtimeName generic) [first, second] =
      "grpc." ++ generic ++ "<" ++ first ++ ", " ++ second ++ ">" := by
  simp only [instantiated, runtimeName, Text.join, List.append_assoc]
  rfl

variable (service : Service) (methods : List MethodContract)

theorem filter_flatMap_handlerMembers :
    (methods.flatMap (·.handlerMembers)).filter (!·.isComment) = methods.map (·.handler) := by
  simp only [List.filter_flatMap, MethodContract.filter_handlerMembers, List.map_eq_flatMap]

/-- A reader that skips comments reads the declarations alone. -/
theorem filterMap_items {α : Type} {read : Item → Option α}
    (skips : ∀ block, read (.comment block) = none) :
    (items service methods).filterMap read =
      [
        implementation service methods, .blank, table service methods, .blank,
        clientInterface service methods, .blank, constructorInterface service, .blank,
        clientConstant service, .blank, promiseInterface service methods, .blank
      ].filterMap read := by
  have commented : (comment service).filterMap read = [] := by
    rw [comment]
    split
    · rfl
    · rw [List.filterMap_cons_none (skips _), List.filterMap_nil]
  rw [items, List.filterMap_append, List.filterMap_append, List.filterMap_append, commented,
    List.nil_append, List.append_nil, ← List.filterMap_append]
  rfl

/-- Whatever the service is called, the names of its interfaces differ in length. -/
theorem interfaces_nodup :
    (((items service methods).filterMap (·.interface?)).map (·.1)).Nodup := by
  rw [filterMap_items service methods fun _ => rfl]
  apply List.Nodup.of_map List.length
  simp [implementation, table, clientInterface, constructorInterface, clientConstant,
    promiseInterface, Item.interface?, implementationName, clientInterfaceName, constructorName,
    promiseInterfaceName, Text.ofString]

theorem interfaces_items :
    interfaces (items service methods) (implementationName service) =
      [methods.flatMap (·.handlerMembers)] := by
  apply map_filter_of_mem (interfaces_nodup service methods)
  rw [filterMap_items service methods fun _ => rfl]
  exact .head _

theorem interfaces_clientInterfaceName :
    interfaces (items service methods) (clientInterfaceName service) =
      [methods.flatMap (·.clientMembers)] := by
  apply map_filter_of_mem (interfaces_nodup service methods)
  rw [filterMap_items service methods fun _ => rfl]
  exact .tail _ (.head _)

theorem interfaces_promiseInterfaceName :
    interfaces (items service methods) (promiseInterfaceName service) =
      [methods.flatMap (·.promiseMembers)] := by
  apply map_filter_of_mem (interfaces_nodup service methods)
  rw [filterMap_items service methods fun _ => rfl]
  exact .tail _ (.tail _ (.tail _ (.head _)))

theorem constants_nodup :
    (((items service methods).filterMap (·.constant?)).map (·.1)).Nodup := by
  rw [filterMap_items service methods fun _ => rfl]
  apply List.Nodup.of_map List.length
  simp [implementation, table, clientInterface, constructorInterface, clientConstant,
    promiseInterface, Item.constant?, tableName, clientName, Text.ofString]

theorem constants_tableName :
    constants (items service methods) (tableName service) =
      [.object (methods.map fun contract => contract.tableEntry service)] := by
  apply map_filter_of_mem (constants_nodup service methods)
  rw [filterMap_items service methods fun _ => rfl]
  exact .head _

theorem constants_clientName :
    constants (items service methods) (clientName service) =
      [.cast (constructorName service)
        (.call "grpc.makeGenericClientConstructor"
          [.identifier (tableName service), .string service.fullName, .object []])] := by
  apply map_filter_of_mem (constants_nodup service methods)
  rw [filterMap_items service methods fun _ => rfl]
  exact .tail _ (.head _)

end ServiceContract

/-- Relations along two lists compose to one. -/
theorem forall₂_comp {α β γ : Type} {R : α → β → Prop} {S : β → γ → Prop} {xs : List α}
    {ys : List β} {zs : List γ} (first : List.Forall₂ R xs ys) (second : List.Forall₂ S ys zs) :
    List.Forall₂ (fun x z => ∃ y, R x y ∧ S y z) xs zs := by
  induction first generalizing zs with
  | nil =>
      cases second
      exact .nil
  | cons related _ ih =>
      cases second with
      | cons next rest => exact .cons ⟨_, related, next⟩ (ih rest)

namespace Schema

variable {descriptors : List FileDescriptor} {schema : Schema} {id : FileId}

theorem objectPath_of_reference {id : MessageId} {message : MessageReference}
    (reference : schema.reference id = .ok message) :
    objectPath (schema.message id).fullName (schema.ownerOf (schema.message id)).path
      (schema.ownerOf (schema.message id)).package = .ok message.objectPath := by
  obtain ⟨path, found, rfl⟩ := bind_pure_eq_ok.mp reference
  exact found

theorem standsFor_of_reference (accepted : ofDescriptors descriptors = .ok schema) {id : MessageId}
    {typeName : Text} (named : schema.fullName? id = some (dropLeadingDot typeName))
    {message : MessageReference} (reference : schema.reference id = .ok message) :
    StandsFor descriptors typeName message.objectPath := by
  obtain ⟨known, fullName⟩ := message_of_fullName? named
  obtain ⟨file, member, declared⟩ := declared_of_known accepted known
  rw [fullName] at declared
  obtain ⟨path, package⟩ := ownerOf_of_declared accepted member declared named
  obtain ⟨name, within, spelled⟩ := objectPath_eq_ok.mp (objectPath_of_reference reference)
  rw [fullName, package, qualify_eq_dotted] at within
  rw [path] at spelled
  exact ⟨file, member, name, within ▸ declared, Text.names_iff.mpr within, spelled⟩

/-- The contract of a method serves the descriptor that the method was resolved from. -/
theorem serves_of_methodContract (accepted : ofDescriptors descriptors = .ok schema)
    {method : Method} {descriptor : MethodDescriptor}
    (resolved : method.ResolvedFrom schema descriptor) {contract : MethodContract}
    (made : MethodContract.ofMethod schema method = .ok contract) (service : Service) :
    ∃ request response,
      StandsFor descriptors (descriptor.input.getD []) request ∧
      StandsFor descriptors (descriptor.output.getD []) response ∧
      descriptor.Serves service.fullName request response contract.handler
        (contract.tableEntry service) := by
  obtain ⟨request, response, input, output, rfl⟩ := MethodContract.ofMethod_eq_ok.mp made
  refine ⟨request.objectPath, response.objectPath,
    standsFor_of_reference accepted resolved.types.input input,
    standsFor_of_reference accepted resolved.types.output output, ?_⟩
  have clientStreams := CallMode.clientStreams_ofFlags (descriptor.clientStreaming.getD false)
    (descriptor.serverStreaming.getD false)
  have serverStreams := CallMode.serverStreams_ofFlags (descriptor.clientStreaming.getD false)
    (descriptor.serverStreaming.getD false)
  rw [← resolved.mode] at clientStreams serverStreams
  exact
    {
      key := by rw [← resolved.name]; rfl
      handler := by
        rw [← CallMode.handlerName_ofFlags, ← resolved.mode, MethodContract.handler,
          MethodContract.handlerType, ServiceContract.instantiated_pair]
        rfl
      type := by
        rw [MethodContract.tableEntry, ServiceContract.instantiated_pair]
        exact ⟨_, rfl⟩
      path := by rw [← resolved.name]; rfl
      requestStream := by rw [← clientStreams]; rfl
      responseStream := by rw [← serverStreams]; rfl
      requestType := rfl
      responseType := rfl
    }

theorem serves_of_contract (accepted : ofDescriptors descriptors = .ok schema) {package : Text}
    {service : Service} {descriptor : ServiceDescriptor}
    (resolved : service.ResolvedFrom schema package descriptor) {items : List Item}
    (found : schema.serviceContract service = .ok items) :
    ∃ handlers entries, descriptor.Serves descriptors package items handlers entries := by
  obtain ⟨methods, made, rfl⟩ := serviceContract_eq_ok.mp found
  refine ⟨methods.map (·.handler), methods.map (·.tableEntry service), ?_⟩
  refine
    {
      interface := ⟨_, ?_, ServiceContract.filter_flatMap_handlerMembers methods⟩
      table := ?_
      client := ?_
      length := by rw [List.length_map, List.length_map]
      methods := ?_
    }
  · rw [← resolved.name]
    exact ServiceContract.interfaces_items service methods
  · rw [← resolved.name]
    exact ServiceContract.constants_tableName service methods
  · rw [← resolved.fullName, ← resolved.name]
    exact ServiceContract.constants_clientName service methods
  · rw [List.zip_map', List.forall₂_map_right_iff, ← resolved.fullName]
    apply (forall₂_comp resolved.methods.flip (forall₂_of_mapM made)).imp
    rintro declared contract ⟨method, resolved, made⟩
    exact serves_of_methodContract accepted resolved made service

/-- Every service has declarations, and to a server they say what the descriptor says. -/
theorem serviceContracts_serve (accepted : ofDescriptors descriptors = .ok schema)
    (known : id.index < schema.files.length) :
    ∃ file, descriptors[id.index]? = some file ∧
      List.Forall₂
        (fun service declared => ∃ items handlers entries,
          schema.serviceContract service = .ok items ∧
            ServiceDescriptor.Serves declared descriptors file.packageName items handlers entries)
        (schema.file id).services file.services := by
  obtain ⟨file, found⟩ := exists_descriptor accepted known
  refine ⟨file, found, ?_⟩
  have resolved := services_resolvedFrom accepted found
  apply ((List.forall₂_and_left _ _).mpr ⟨fun _ member => member, resolved⟩).imp
  rintro service declared ⟨member, resolved⟩
  obtain ⟨items, contract⟩ := serviceContract_of_service accepted known member
  obtain ⟨handlers, entries, serves⟩ := serves_of_contract accepted resolved contract
  exact ⟨items, handlers, entries, contract, serves⟩

theorem serviceContracts_serve_market :
    ∃ schema file, ofDescriptors market = .ok schema ∧ 1 < schema.files.length ∧
      market[1]? = some file ∧
      List.Forall₂
        (fun service declared => ∃ items handlers entries,
          schema.serviceContract service = .ok items ∧
            ServiceDescriptor.Serves declared market file.packageName items handlers entries)
        (schema.file ⟨1⟩).services file.services := by
  have accepted : ofDescriptors market = .ok (Registry.listing market).schemaOf := rfl
  have known : (FileId.mk 1).index < (Registry.listing market).schemaOf.files.length := by decide
  obtain ⟨file, found, serve⟩ := serviceContracts_serve accepted known
  exact ⟨_, file, accepted, known, found, serve⟩

end Schema
end GrpcBindings

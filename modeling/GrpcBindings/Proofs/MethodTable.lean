import GrpcBindings.MessageBinding
import GrpcBindings.Proofs.MessageReference

/-!
Method tables against the functions that they name. A table is read entry by entry, each for the
types of its method and for the four functions that convert them. The functions that the tables of a
file name are those that its bindings declare, and each pair of them converts the type beside it.
-/

namespace GrpcBindings
namespace Value

/-- The entries of an object, which may be asserted to have a type. -/
def entries : Value → List Entry
  | .object entries | .cast _ (.object entries) => entries
  | _ => []

def identifier? : Value → Option Text
  | .identifier name => some name
  | _ => none

end Value

namespace Entry

def key : Entry → Key
  | .mk key _ => key

def value : Entry → Value
  | .mk _ value => value

/-- The identifier under a name in the object of an entry. -/
def identifier? (entry : Entry) (name : Text) : Option Text :=
  (entry.value.entries.find? fun field => field.key = .ofName name).bind (·.value.identifier?)

/-- The functions that the entry of a method names. -/
def converters (entry : Entry) : List Text :=
  (["requestSerialize", "requestDeserialize", "responseSerialize", "responseDeserialize"] :
    List Text).filterMap entry.identifier?

end Entry

namespace Item

/-- The entries of a constant that is an object. -/
def entries : Item → List Entry
  | .constant _ _ (.object entries) => entries
  | _ => []

def functionName? : Item → Option Text
  | .function name _ _ _ => some name
  | _ => none

end Item

/-- The entries of all tables among items. -/
def tableEntries (items : List Item) : List Entry :=
  items.flatMap (·.entries)

/-- The functions that the tables among items name. -/
def tableConverters (items : List Item) : List Text :=
  (tableEntries items).flatMap (·.converters)

/-- The functions that are declared among items. -/
def functionNames (items : List Item) : List Text :=
  items.filterMap (·.functionName?)

/-- One function takes a value of a type and the other makes one of what it takes. -/
structure Converts (items : List Item) (type serializer deserializer : Text) : Prop where
  serializes : Item.function serializer [{ name := "arg", type := type }] "any"
    ["return Buffer.from(arg.serializeBinary());"] ∈ items
  deserializes : Item.function deserializer [{ name := "buffer_arg", type := "any" }] "any"
    ["return " ++ type ++ ".deserializeBinary(new Uint8Array(buffer_arg));"] ∈ items

/-- At one side of its method, an entry names a type and two functions that convert it. -/
def Entry.Converted (items : List Item) (entry : Entry) (side : Text) : Prop :=
  ∃ type serializer deserializer,
    entry.identifier? (side ++ "Type") = some type ∧
    entry.identifier? (side ++ "Serialize") = some serializer ∧
    entry.identifier? (side ++ "Deserialize") = some deserializer ∧
    Converts items type serializer deserializer

/-- The entry of a method converts what the method takes and what it gives. -/
structure Entry.Describes (items : List Item) (method : Method) (entry : Entry) : Prop where
  key : entry.key = .ofName (lowerFirst method.name)
  request : entry.Converted items "request"
  response : entry.Converted items "response"

namespace MethodContract

variable (contract : MethodContract) (service : Service)

theorem converters_tableEntry :
    (contract.tableEntry service).converters =
      [contract.request.serializer, contract.request.deserializer,
        contract.response.serializer, contract.response.deserializer] := rfl

theorem request_tableEntry {items : List Item}
    (converts : Converts items contract.request.objectPath contract.request.serializer
      contract.request.deserializer) :
    (contract.tableEntry service).Converted items "request" :=
  ⟨_, _, _, rfl, rfl, rfl, converts⟩

theorem response_tableEntry {items : List Item}
    (converts : Converts items contract.response.objectPath contract.response.serializer
      contract.response.deserializer) :
    (contract.tableEntry service).Converted items "response" :=
  ⟨_, _, _, rfl, rfl, rfl, converts⟩

end MethodContract

theorem tableEntries_append (first second : List Item) :
    tableEntries (first ++ second) = tableEntries first ++ tableEntries second :=
  List.flatMap_append

open ServiceContract in
/-- The contract of a service has one table, with an entry for each method. -/
theorem tableEntries_items (service : Service) (methods : List MethodContract) :
    tableEntries (items service methods) =
      methods.map fun contract => contract.tableEntry service := by
  have commented : tableEntries (comment service) = [] := by
    unfold comment
    simp only
    split <;> rfl
  have server :
      tableEntries [implementation service methods, .blank, table service methods, .blank] =
        methods.map fun contract => contract.tableEntry service :=
    List.append_nil _
  have client : tableEntries [clientInterface service methods, .blank, constructorInterface service,
      .blank, clientConstant service, .blank, promiseInterface service methods, .blank] = [] := rfl
  rw [items, tableEntries_append, tableEntries_append, tableEntries_append, commented, server,
    client, List.nil_append, List.append_nil, List.append_nil]

/-- The bindings of a message declare the functions that convert it. -/
theorem functionNames_bindings (message : MessageReference) :
    functionNames [message.serializerItem, .blank, message.deserializerItem, .blank] =
      [message.serializer, message.deserializer] := rfl

theorem mem_functionNames_flatten {lists : List (List Item)} {name : Text} :
    name ∈ functionNames lists.flatten ↔ ∃ items ∈ lists, name ∈ functionNames items := by
  simp only [functionNames, List.filterMap_flatten, List.mem_flatten, List.mem_map,
    exists_exists_and_eq_and]

theorem mem_tableConverters_flatten {lists : List (List Item)} {name : Text} :
    name ∈ tableConverters lists.flatten ↔ ∃ items ∈ lists, name ∈ tableConverters items := by
  simp only [tableConverters, tableEntries, List.mem_flatMap, List.mem_flatten]
  constructor
  · rintro ⟨entry, ⟨item, ⟨items, list, member⟩, entries⟩, names⟩
    exact ⟨items, list, entry, ⟨item, member, entries⟩, names⟩
  · rintro ⟨items, list, entry, ⟨item, member, entries⟩, names⟩
    exact ⟨entry, ⟨item, ⟨items, list, member⟩, entries⟩, names⟩

theorem MethodContract.ofMethod_eq_ok {schema : Schema} {method : Method}
    {contract : MethodContract} :
    ofMethod schema method = .ok contract ↔
      ∃ request response, schema.reference method.input = .ok request ∧
        schema.reference method.output = .ok response ∧
        contract = { method, key := .ofName (lowerFirst method.name), request, response } := by
  rw [ofMethod]
  cases schema.reference method.input with
  | error _ => simp [bind, Except.bind]
  | ok request =>
      refine bind_pure_eq_ok.trans ⟨?_, ?_⟩
      · rintro ⟨response, output, same⟩
        exact ⟨request, response, rfl, output, same⟩
      · rintro ⟨_, response, input, output, same⟩
        cases input
        exact ⟨response, output, same⟩

namespace Schema

variable {schema : Schema} {file : SchemaFile}

theorem messageBindings_eq_ok {id : MessageId} {bindings : List Item} :
    schema.messageBindings id = .ok bindings ↔
      ∃ message, schema.reference id = .ok message ∧
        bindings = [message.serializerItem, .blank, message.deserializerItem, .blank] :=
  bind_pure_eq_ok

theorem serviceContract_eq_ok {service : Service} {contract : List Item} :
    schema.serviceContract service = .ok contract ↔
      ∃ methods, service.methods.mapM (MethodContract.ofMethod schema) = .ok methods ∧
        contract = ServiceContract.items service methods :=
  bind_pure_eq_ok

/-- A name of one of the functions that convert a message. -/
def NamesConverter (schema : Schema) (id : MessageId) (name : Text) : Prop :=
  ∃ message, schema.reference id = .ok message ∧
    name ∈ [message.serializer, message.deserializer]

theorem mem_functionNames_of_bindings {ids : List MessageId} {bindings : List (List Item)}
    (bound : ids.mapM schema.messageBindings = .ok bindings) {name : Text} :
    name ∈ functionNames bindings.flatten ↔ ∃ id ∈ ids, schema.NamesConverter id name := by
  rw [mem_functionNames_flatten]
  constructor
  · rintro ⟨items, member, named⟩
    obtain ⟨id, idMember, found⟩ := (mem_of_mapM bound).mp member
    obtain ⟨message, reference, rfl⟩ := messageBindings_eq_ok.mp found
    exact ⟨id, idMember, message, reference, named⟩
  · rintro ⟨id, idMember, message, reference, named⟩
    exact ⟨_, (mem_of_mapM bound).mpr
      ⟨id, idMember, messageBindings_eq_ok.mpr ⟨message, reference, rfl⟩⟩, named⟩

theorem mem_tableConverters_items {service : Service} {methods : List MethodContract}
    {name : Text} :
    name ∈ tableConverters (ServiceContract.items service methods) ↔
      ∃ contract ∈ methods,
        name ∈ [contract.request.serializer, contract.request.deserializer] ∨
          name ∈ [contract.response.serializer, contract.response.deserializer] := by
  rw [tableConverters, tableEntries_items, List.flatMap_map, List.mem_flatMap]
  simp only [MethodContract.converters_tableEntry, ← List.mem_append]
  rfl

theorem mem_tableConverters_of_contracts {contracts : List (List Item)}
    (contracted : file.services.mapM schema.serviceContract = .ok contracts) {name : Text} :
    name ∈ tableConverters contracts.flatten ↔
      ∃ id ∈ exchangedMessages file, schema.NamesConverter id name := by
  rw [mem_tableConverters_flatten]
  constructor
  · rintro ⟨items, member, named⟩
    obtain ⟨service, serviceMember, found⟩ := (mem_of_mapM contracted).mp member
    obtain ⟨methods, each, rfl⟩ := serviceContract_eq_ok.mp found
    obtain ⟨contract, contractMember, named⟩ := mem_tableConverters_items.mp named
    obtain ⟨method, methodMember, made⟩ := (mem_of_mapM each).mp contractMember
    obtain ⟨request, response, input, output, rfl⟩ := MethodContract.ofMethod_eq_ok.mp made
    have exchanged (id : MessageId) (isType : id = method.input ∨ id = method.output) :
        id ∈ exchangedMessages file :=
      mem_exchangedMessages.mpr ⟨service, serviceMember, method, methodMember, isType⟩
    rcases named with named | named
    · exact ⟨_, exchanged _ (.inl rfl), request, input, named⟩
    · exact ⟨_, exchanged _ (.inr rfl), response, output, named⟩
  · rintro ⟨id, exchanged, message, reference, named⟩
    obtain ⟨service, serviceMember, method, methodMember, isType⟩ :=
      mem_exchangedMessages.mp exchanged
    obtain ⟨items, member, found⟩ := exists_of_mapM contracted serviceMember
    obtain ⟨methods, each, rfl⟩ := serviceContract_eq_ok.mp found
    obtain ⟨contract, contractMember, made⟩ := exists_of_mapM each methodMember
    refine ⟨_, member, mem_tableConverters_items.mpr ⟨contract, contractMember, ?_⟩⟩
    obtain ⟨request, response, input, output, rfl⟩ := MethodContract.ofMethod_eq_ok.mp made
    rcases isType with rfl | rfl
    · obtain rfl := Except.ok.inj (reference.symm.trans input)
      exact .inl named
    · obtain rfl := Except.ok.inj (reference.symm.trans output)
      exact .inr named

theorem converts_of_bindings {ids : List MessageId} {bindings : List (List Item)}
    (bound : ids.mapM schema.messageBindings = .ok bindings) {id : MessageId} (member : id ∈ ids)
    {message : MessageReference} (reference : schema.reference id = .ok message) :
    Converts bindings.flatten message.objectPath message.serializer message.deserializer := by
  obtain ⟨items, itemsMember, found⟩ := exists_of_mapM bound member
  obtain ⟨_, same, rfl⟩ := messageBindings_eq_ok.mp found
  obtain rfl := Except.ok.inj (reference.symm.trans same)
  have emitted {item : Item}
      (one : item ∈ [message.serializerItem, .blank, message.deserializerItem, .blank]) :
      item ∈ bindings.flatten :=
    List.mem_flatten.mpr ⟨_, itemsMember, one⟩
  exact ⟨emitted List.mem_cons_self, emitted (.tail _ (.tail _ List.mem_cons_self))⟩

/-- The table of a service describes its methods one by one. -/
theorem describes_of_contract {ids : List MessageId} {bindings : List (List Item)}
    (bound : ids.mapM schema.messageBindings = .ok bindings) {service : Service}
    (types : ∀ method ∈ service.methods, method.input ∈ ids ∧ method.output ∈ ids)
    {contract : List Item} (found : schema.serviceContract service = .ok contract) :
    List.Forall₂ (fun method entry => entry.Describes bindings.flatten method) service.methods
      (tableEntries contract) := by
  obtain ⟨methods, each, rfl⟩ := serviceContract_eq_ok.mp found
  rw [tableEntries_items, List.forall₂_map_right_iff]
  apply (forall₂_mem_of_mapM each).imp
  rintro method contract ⟨member, made⟩
  obtain ⟨request, response, input, output, rfl⟩ := MethodContract.ofMethod_eq_ok.mp made
  obtain ⟨inputMember, outputMember⟩ := types method member
  exact
    {
      key := rfl
      request := MethodContract.request_tableEntry _ service
        (converts_of_bindings bound inputMember input)
      response := MethodContract.response_tableEntry _ service
        (converts_of_bindings bound outputMember output)
    }

/-- The tables of a file name the functions that its bindings declare and no others, and the table
of each service describes its methods. -/
structure TablesAgree (file : SchemaFile) (bindings : List Item) (contracts : List (List Item)) :
    Prop where
  names : ∀ name, name ∈ tableConverters contracts.flatten ↔ name ∈ functionNames bindings
  methods : List.Forall₂
    (fun service contract =>
      List.Forall₂ (fun method entry => entry.Describes bindings method) service.methods
        (tableEntries contract))
    file.services contracts

variable {descriptors : List FileDescriptor}

theorem tables_agree_of_accepted (accepted : ofDescriptors descriptors = .ok schema) {id : FileId}
    (known : id.index < schema.files.length) :
    ∃ bindings contracts,
      (schema.reachableMessages (schema.file id)).mapM schema.messageBindings = .ok bindings ∧
      (schema.file id).services.mapM schema.serviceContract = .ok contracts ∧
      TablesAgree (schema.file id) bindings.flatten contracts := by
  obtain ⟨bindings, bound⟩ := exists_mapM_ok (schema.reachableMessages (schema.file id))
    fun _ reachable => messageBindings_of_reachable accepted known reachable
  obtain ⟨contracts, contracted⟩ := exists_mapM_ok (schema.file id).services
    fun _ member => serviceContract_of_service accepted known member
  have reachable_iff (message : MessageId) :
      message ∈ schema.reachableMessages (schema.file id) ↔
        message ∈ exchangedMessages (schema.file id) :=
    ⟨exchanged_of_reachable, reachable_of_exchanged accepted known⟩
  refine ⟨bindings, contracts, bound, contracted, ?_, ?_⟩
  · intro name
    rw [mem_tableConverters_of_contracts contracted, mem_functionNames_of_bindings bound]
    simp only [reachable_iff]
  · apply (forall₂_mem_of_mapM contracted).imp
    rintro service contract ⟨serviceMember, found⟩
    refine describes_of_contract bound ?_ found
    intro method methodMember
    rw [reachable_iff, reachable_iff, mem_exchangedMessages, mem_exchangedMessages]
    exact ⟨⟨service, serviceMember, method, methodMember, .inl rfl⟩,
      ⟨service, serviceMember, method, methodMember, .inr rfl⟩⟩

/-- Two services share messages of their own file and of another, one of them nested. -/
def market : List FileDescriptor :=
  [
    {
      name := some "goods/crate.proto", package := some "goods", dependencies := []
      messages := [.mk (some "Crate") [.mk (some "Fruit") []]]
      services := [], locations := none
    },
    {
      name := some "market.proto", package := none, dependencies := ["goods/crate.proto"]
      messages := [.mk (some "Coin") []]
      services :=
        [
          {
            name := some "Stall"
            methods :=
              [
                {
                  name := some "New", input := some ".Coin", output := some ".goods.Crate"
                  clientStreaming := none, serverStreaming := none
                },
                {
                  name := some "Unpack", input := some ".goods.Crate"
                  output := some ".goods.Crate.Fruit", clientStreaming := none
                  serverStreaming := some true
                }
              ]
          },
          {
            name := some "Bank"
            methods :=
              [
                {
                  name := some "Change", input := some ".Coin", output := some ".Coin"
                  clientStreaming := some true, serverStreaming := some true
                }
              ]
          }
        ]
      locations := none
    }
  ]

theorem tables_agree_of_market :
    ∃ schema, ofDescriptors market = .ok schema ∧ 1 < schema.files.length ∧
      ∃ bindings contracts,
        (schema.reachableMessages (schema.file ⟨1⟩)).mapM schema.messageBindings = .ok bindings ∧
        (schema.file ⟨1⟩).services.mapM schema.serviceContract = .ok contracts ∧
        TablesAgree (schema.file ⟨1⟩) bindings.flatten contracts := by
  have accepted : ofDescriptors market = .ok (Registry.listing market).schemaOf := rfl
  have known : 1 < (Registry.listing market).schemaOf.files.length := by decide
  exact ⟨_, accepted, known, tables_agree_of_accepted accepted known⟩

end Schema
end GrpcBindings

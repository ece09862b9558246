import GrpcBindings.Proofs.Correspondence
import GrpcBindings.Proofs.ServerContract

/-!
What the declarations of a service say to a client. The members of the interface for calls come in
groups, one for each method, with the key that the method has in the table. The interface for
promises has the groups of the unary methods, where the promise takes the place of the callback.
-/

namespace GrpcBindings

/-- The ways to call one method: perhaps a comment, then overloads with one key and one result, and
perhaps an empty line. -/
structure CallGroup where
  comment : Option Text
  key : Key
  /-- The type of what is sent, and of what is received. -/
  request : Text
  response : Text
  parameters : List (List Parameter)
  returns : Text
  layout : ParameterLayout
  endsInGap : Bool
  deriving DecidableEq, Repr

namespace CallGroup

def members (group : CallGroup) : List Member :=
  (group.comment.map Member.comment).toList ++
    group.parameters.map (fun parameters =>
      .method group.key parameters group.returns group.layout) ++
    if group.endsInGap then [.gap] else []

/-- The calls for a promise of the response. They take what the others take before the last, which
is the callback. -/
def promised (group : CallGroup) : CallGroup :=
  {
    group with
    parameters := group.parameters.map List.dropLast
    returns := "Promise<" ++ group.response ++ ">"
  }

end CallGroup

/-- A group of calls is what a client needs for a method with an entry in the table. -/
structure Method.Calls (method : Method) (entry : Entry) (group : CallGroup) : Prop where
  comment : group.comment.getD [] = Comment.block .method .leading method.comments "//" ∧
    group.comment ≠ some []
  key : group.key = entry.key
  requestType : entry.fields "requestType" = [.identifier group.request]
  responseType : entry.fields "responseType" = [.identifier group.response]
  /-- The request is a parameter if and only if the client does not stream. -/
  request : ∀ parameters ∈ group.parameters,
    parameters.filter (·.name = ("request" : Text)) =
      if method.mode.clientStreams then [] else [{ name := "request", type := group.request }]
  unary : method.mode = .unary →
    group.parameters.length = 3 ∧ group.returns = "void" ∧ group.endsInGap = true ∧
      ∀ parameters ∈ group.parameters,
        parameters.getLast? =
          some { name := "callback", type := "grpc.requestCallback<" ++ group.response ++ ">" }
  streaming : method.mode ≠ .unary → group.parameters.length = 2 ∧ group.endsInGap = false

/-- The declarations of a service have one interface for calls and one for promises. -/
structure Service.Calls (service : Service) (items : List Item) (entries : List Entry)
    (groups : List CallGroup) : Prop where
  table : constants items (service.name ++ "Service") = [.object entries]
  length : entries.length = groups.length
  methods : List.Forall₂ (fun method (entry, group) => method.Calls entry group) service.methods
    (entries.zip groups)
  calls : interfaces items ("I" ++ service.name ++ "Client") = [groups.flatMap (·.members)]
  /-- Methods that stream on either side have no promises, nor do their comments show. -/
  promises : interfaces items ("I" ++ service.name ++ "PromiseClient") =
    [((service.methods.zip groups).filter fun (method, _) => method.mode = .unary).flatMap
      fun (_, group) => group.promised.members]

namespace MethodContract

def parameterLists (contract : MethodContract) : List (List Parameter) :=
  let request := contract.requestParameter
  let callback := contract.callbackParameter
  match contract.method.mode with
  | .unary =>
      [
        [request, callback],
        [request, metadataParameter, callback],
        [request, metadataParameter, optionsParameter, callback]
      ]
  | .clientStreaming | .bidirectional => [[], [metadataParameter]]
  | .serverStreaming => [[request], [request, metadataParameter]]

def callResult (contract : MethodContract) : Text :=
  let requestPath := contract.request.objectPath
  let responsePath := contract.response.objectPath
  match contract.method.mode with
  | .unary => "void"
  | .clientStreaming =>
      ServiceContract.instantiated (runtimeName "ClientWritableStream") [requestPath]
  | .serverStreaming =>
      ServiceContract.instantiated (runtimeName "ClientReadableStream") [responsePath]
  | .bidirectional =>
      ServiceContract.instantiated (runtimeName "ClientDuplexStream") [requestPath, responsePath]

def callLayout (contract : MethodContract) : ParameterLayout :=
  match contract.method.mode with
  | .unary | .serverStreaming => .stacked
  | .clientStreaming | .bidirectional => .inline

/-- The calls of a method as one group. -/
def callGroup (contract : MethodContract) : CallGroup where
  comment :=
    let block := Comment.block .method .leading contract.method.comments Comment.lineMarker
    if block.isEmpty then none else some block
  key := contract.key
  request := contract.request.objectPath
  response := contract.response.objectPath
  parameters := contract.parameterLists
  returns := contract.callResult
  layout := contract.callLayout
  endsInGap := contract.method.mode = .unary

variable (contract : MethodContract)

theorem comment_leading :
    contract.comment .leading = (contract.callGroup.comment.map Member.comment).toList := by
  rw [comment, callGroup]
  simp only
  split <;> rfl

theorem clientMembers_eq : contract.clientMembers = contract.callGroup.members := by
  rw [clientMembers, comment_leading, CallGroup.members, List.append_assoc]
  congr 1
  cases mode : contract.method.mode <;>
    simp [callMembers, callGroup, parameterLists, callResult, callLayout, overloads, mode]

theorem promiseMembers_eq :
    contract.promiseMembers =
      if contract.method.mode = .unary then contract.callGroup.promised.members else [] := by
  cases mode : contract.method.mode with
  | unary =>
      rw [promiseMembers, mode, comment_leading, if_pos rfl, CallGroup.members]
      simp only [callGroup, CallGroup.promised, parameterLists, callLayout, overloads, mode]
      rfl
  | clientStreaming | serverStreaming | bidirectional =>
      rw [promiseMembers, mode, if_neg nofun]

theorem calls_callGroup (service : Service) :
    contract.method.Calls (contract.tableEntry service) contract.callGroup where
  comment := by
    rw [callGroup]
    simp only
    split
    · rename_i empty
      rw [List.isEmpty_iff] at empty
      exact ⟨empty.symm, nofun⟩
    · rename_i filled
      rw [List.isEmpty_iff] at filled
      exact ⟨rfl, fun same => filled (Option.some.inj same)⟩
  key := rfl
  requestType := rfl
  responseType := rfl
  request := by
    cases mode : contract.method.mode with
    | unary =>
        simp only [callGroup, parameterLists, mode, List.forall_mem_cons]
        exact ⟨rfl, rfl, rfl, nofun⟩
    | clientStreaming | serverStreaming | bidirectional =>
        simp only [callGroup, parameterLists, mode, List.forall_mem_cons]
        exact ⟨rfl, rfl, nofun⟩
  unary := by
    intro mode
    refine ⟨?_, ?_, ?_, ?_⟩
    · simp only [callGroup, parameterLists, mode]
      rfl
    · simp only [callGroup, callResult, mode]
    · exact decide_eq_true mode
    · simp only [callGroup, parameterLists, mode, List.forall_mem_cons]
      exact ⟨rfl, rfl, rfl, nofun⟩
  streaming := by
    intro streams
    cases mode : contract.method.mode with
    | unary => exact absurd mode streams
    | clientStreaming | serverStreaming | bidirectional =>
        simp [callGroup, parameterLists, mode]

end MethodContract

namespace ServiceContract

variable (service : Service) (methods : List MethodContract)

/-- The groups of the unary methods, picked out by the methods beside them. -/
theorem flatMap_promiseMembers :
    methods.flatMap (·.promiseMembers) =
      (((methods.map (·.method)).zip (methods.map (·.callGroup))).filter
        fun (method, _) => method.mode = .unary).flatMap
          fun (_, group) => group.promised.members := by
  induction methods with
  | nil => rfl
  | cons first rest ih =>
      rw [List.flatMap_cons, ih, first.promiseMembers_eq, List.map_cons, List.map_cons,
        List.zip_cons_cons]
      split
      · rename_i unary
        rw [List.filter_cons_of_pos (by simpa using unary), List.flatMap_cons]
      · rename_i streams
        rw [List.filter_cons_of_neg (by simpa using streams), List.nil_append]

theorem calls_items (methodsOf : methods.map (·.method) = service.methods) :
    service.Calls (items service methods) (methods.map (·.tableEntry service))
      (methods.map (·.callGroup)) where
  table := constants_tableName service methods
  length := by rw [List.length_map, List.length_map]
  methods := by
    rw [List.zip_map', ← methodsOf, List.forall₂_map_left_iff, List.forall₂_map_right_iff,
      List.forall₂_same]
    exact fun contract _ => contract.calls_callGroup service
  calls := by
    have members : methods.flatMap (·.clientMembers) =
        (methods.map (·.callGroup)).flatMap (·.members) := by
      simp only [List.flatMap_map, MethodContract.clientMembers_eq]
    rw [← members]
    exact interfaces_clientInterfaceName service methods
  promises := by
    rw [← methodsOf, ← flatMap_promiseMembers]
    exact interfaces_promiseInterfaceName service methods

end ServiceContract

namespace Schema

variable {descriptors : List FileDescriptor} {schema : Schema} {id : FileId} {service : Service}

theorem methods_of_contracts {methods : List MethodContract}
    (made : service.methods.mapM (MethodContract.ofMethod schema) = .ok methods) :
    methods.map (·.method) = service.methods := by
  rw [← List.map_id service.methods]
  symm
  apply map_eq_map_of_forall₂ (forall₂_of_mapM made)
  intro method contract made
  obtain ⟨_, _, _, _, rfl⟩ := MethodContract.ofMethod_eq_ok.mp made
  rfl

/-- Every service has declarations, and a client finds in them one group of calls for each method
and one group of promises for each unary method. -/
theorem serviceContract_calls (accepted : ofDescriptors descriptors = .ok schema)
    (known : id.index < schema.files.length) (member : service ∈ (schema.file id).services) :
    ∃ items entries groups, schema.serviceContract service = .ok items ∧
      service.Calls items entries groups := by
  obtain ⟨items, found⟩ := serviceContract_of_service accepted known member
  obtain ⟨methods, made, rfl⟩ := serviceContract_eq_ok.mp found
  exact ⟨_, _, _, found, ServiceContract.calls_items service methods (methods_of_contracts made)⟩

/-- A service with a method of each kind. The first is called with a word that is set in quotes, and
the first and the third have comments. -/
def harbor : List FileDescriptor :=
  let method (name : Text) (client server : Bool) : MethodDescriptor :=
    {
      name := some name, input := some ".harbor.Ship", output := some ".harbor.Berth"
      clientStreaming := some client, serverStreaming := some server
    }
  [
    {
      name := some "harbor.proto", package := some "harbor", dependencies := []
      messages := [.mk (some "Ship") [], .mk (some "Berth") []]
      services :=
        [
          {
            name := some "Pilot"
            methods :=
              [
                method "New" false false, method "Load" true false, method "Watch" false true,
                method "Talk" true true, method "Leave" false false
              ]
          }
        ]
      locations := some
        [
          {
            path := Registry.methodCommentPath 0 0, leading := some " Enters.\n", trailing := none
            detached := []
          },
          {
            path := Registry.methodCommentPath 0 2, leading := some " Looks out.\n"
            trailing := none, detached := []
          }
        ]
    }
  ]

theorem serviceContract_calls_harbor :
    ∃ schema service, ofDescriptors harbor = .ok schema ∧ 0 < schema.files.length ∧
      service ∈ (schema.file ⟨0⟩).services ∧ service.methods.length = 5 ∧
      ∃ items entries groups, schema.serviceContract service = .ok items ∧
        service.Calls items entries groups := by
  have accepted : ofDescriptors harbor = .ok (Registry.listing harbor).schemaOf := rfl
  have known : 0 < (Registry.listing harbor).schemaOf.files.length := by decide
  exact ⟨_, _, accepted, known, List.mem_cons_self, rfl,
    serviceContract_calls accepted known List.mem_cons_self⟩

end Schema
end GrpcBindings

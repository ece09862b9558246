import GrpcBindings.ImportBlock
import GrpcBindings.MessageReference

/-!
The declarations of a service: what a server implements, the table that describes the methods, what
a client calls with callbacks or streams, how a client is made, and what it calls with promises.
Every declaration goes through the methods in their order.
-/

namespace GrpcBindings

/-- A method with everything that its declarations mention. -/
structure MethodContract where
  method : Method
  key : Key
  request : MessageReference
  response : MessageReference
  deriving DecidableEq, Repr

namespace ServiceContract

def implementationName (service : Service) : Text :=
  "I" ++ service.name ++ "Implementation"

def tableName (service : Service) : Text :=
  service.name ++ "Service"

def clientInterfaceName (service : Service) : Text :=
  "I" ++ service.name ++ "Client"

def constructorName (service : Service) : Text :=
  service.name ++ "ClientConstructor"

def clientName (service : Service) : Text :=
  service.name ++ "Client"

def promiseInterfaceName (service : Service) : Text :=
  "I" ++ service.name ++ "PromiseClient"

/-- A generic type with its arguments. -/
def instantiated (generic : Text) (arguments : List Text) : Text :=
  generic ++ "<" ++ Text.join ", " arguments ++ ">"

def handlerName : CallMode → Text
  | .unary => "handleUnaryCall"
  | .clientStreaming => "handleClientStreamingCall"
  | .serverStreaming => "handleServerStreamingCall"
  | .bidirectional => "handleBidiStreamingCall"

end ServiceContract

open ServiceContract

namespace MethodContract

def ofMethod (schema : Schema) (method : Method) : Except Error MethodContract := do
  let request ← schema.reference method.input
  let response ← schema.reference method.output
  return { method, key := .ofName (lowerFirst method.name), request, response }

/-- The comment at one side of the method, if there is one. -/
def comment (contract : MethodContract) (side : CommentSide) : List Member :=
  let block := Comment.block .method side contract.method.comments Comment.lineMarker
  if block.isEmpty then [] else [.comment block]

def handlerType (contract : MethodContract) : Text :=
  instantiated (runtimeName (handlerName contract.method.mode))
    [contract.request.objectPath, contract.response.objectPath]

def handlerMembers (contract : MethodContract) : List Member :=
  contract.comment .leading ++ .property contract.key contract.handlerType ::
    contract.comment .trailing

def definition (service : Service) (contract : MethodContract) : List Entry :=
  let entry (name : Text) (value : Value) : Entry := .mk (.ofName name) value
  [
    entry "path" (.string ("/" ++ service.fullName ++ "/" ++ contract.method.name)),
    entry "requestStream" (.boolean contract.method.mode.clientStreams),
    entry "responseStream" (.boolean contract.method.mode.serverStreams),
    entry "requestType" (.identifier contract.request.objectPath),
    entry "responseType" (.identifier contract.response.objectPath),
    entry "requestSerialize" (.identifier contract.request.serializer),
    entry "requestDeserialize" (.identifier contract.request.deserializer),
    entry "responseSerialize" (.identifier contract.response.serializer),
    entry "responseDeserialize" (.identifier contract.response.deserializer)
  ]

def tableEntry (service : Service) (contract : MethodContract) : Entry :=
  .mk contract.key
    (.cast
      (instantiated (runtimeName "MethodDefinition")
        [contract.request.objectPath, contract.response.objectPath])
      (.object (contract.definition service)))

def requestParameter (contract : MethodContract) : Parameter :=
  { name := "request", type := contract.request.objectPath }

def metadataParameter : Parameter :=
  { name := "metadata", type := runtimeName "Metadata | null" }

def optionsParameter : Parameter :=
  { name := "options", type := runtimeName "CallOptions | null" }

def callbackParameter (contract : MethodContract) : Parameter :=
  {
    name := "callback"
    type := instantiated (runtimeName "requestCallback") [contract.response.objectPath]
  }

/-- One member for each list of parameters. -/
def overloads (contract : MethodContract) (returns : Text) (layout : ParameterLayout)
    (parameters : List (List Parameter)) : List Member :=
  parameters.map fun parameters => .method contract.key parameters returns layout

/-- The ways to call the method. A client that streams sends no request with the call. -/
def callMembers (contract : MethodContract) : List Member :=
  let request := contract.requestParameter
  let callback := contract.callbackParameter
  let requestPath := contract.request.objectPath
  let responsePath := contract.response.objectPath
  match contract.method.mode with
  | .unary =>
      contract.overloads "void" .stacked
        [
          [request, callback],
          [request, metadataParameter, callback],
          [request, metadataParameter, optionsParameter, callback]
        ] ++ [.gap]
  | .clientStreaming =>
      contract.overloads (instantiated (runtimeName "ClientWritableStream") [requestPath]) .inline
        [[], [metadataParameter]]
  | .serverStreaming =>
      contract.overloads (instantiated (runtimeName "ClientReadableStream") [responsePath]) .stacked
        [[request], [request, metadataParameter]]
  | .bidirectional =>
      contract.overloads
        (instantiated (runtimeName "ClientDuplexStream") [requestPath, responsePath]) .inline
        [[], [metadataParameter]]

def clientMembers (contract : MethodContract) : List Member :=
  contract.comment .leading ++ contract.callMembers

/-- The ways to call the method for a promise. Only a unary call waits for a single response. -/
def promiseMembers (contract : MethodContract) : List Member :=
  let request := contract.requestParameter
  match contract.method.mode with
  | .unary =>
      contract.comment .leading ++
        contract.overloads (instantiated "Promise" [contract.response.objectPath]) .stacked
          [
            [request],
            [request, metadataParameter],
            [request, metadataParameter, optionsParameter]
          ] ++ [.gap]
  | .clientStreaming | .serverStreaming | .bidirectional => []

end MethodContract

namespace ServiceContract

def comment (service : Service) : List Item :=
  let block := Comment.block .service .leading service.comments Comment.lineMarker
  if block.isEmpty then [] else [.comment block]

def implementation (service : Service) (methods : List MethodContract) : Item :=
  .interface (implementationName service) none (methods.flatMap (·.handlerMembers))

def table (service : Service) (methods : List MethodContract) : Item :=
  .constant (tableName service)
    (instantiated (runtimeName "ServiceDefinition") [implementationName service])
    (.object (methods.map fun contract => contract.tableEntry service))

def clientInterface (service : Service) (methods : List MethodContract) : Item :=
  .interface (clientInterfaceName service) (runtimeName "Client")
    (methods.flatMap (·.clientMembers))

def constructorInterface (service : Service) : Item :=
  .interface (constructorName service) none
    [
      .construct
        [
          { name := "address", type := "string" },
          { name := "credentials", type := runtimeName "ChannelCredentials" },
          { name := "options", type := "object", isOptional := true }
        ]
        (clientInterfaceName service)
    ]

def clientConstant (service : Service) : Item :=
  .constant (clientName service) none
    (.cast (constructorName service)
      (.call (runtimeName "makeGenericClientConstructor")
        [.identifier (tableName service), .string service.fullName, .object []]))

def promiseInterface (service : Service) (methods : List MethodContract) : Item :=
  .interface (promiseInterfaceName service) none (methods.flatMap (·.promiseMembers))

def items (service : Service) (methods : List MethodContract) : List Item :=
  comment service ++
    [implementation service methods, .blank, table service methods, .blank] ++
    comment service ++
    [
      clientInterface service methods, .blank,
      constructorInterface service, .blank,
      clientConstant service, .blank,
      promiseInterface service methods, .blank
    ]

end ServiceContract

namespace Schema

def serviceContract (schema : Schema) (service : Service) : Except Error (List Item) := do
  let methods ← service.methods.mapM (MethodContract.ofMethod schema)
  return ServiceContract.items service methods

end Schema
end GrpcBindings

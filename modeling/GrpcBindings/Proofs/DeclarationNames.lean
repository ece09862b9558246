import Mathlib.Data.List.Nodup
import Mathlib.Data.List.Perm.Basic
import GrpcBindings.Proofs.ServerContract

/-!
Names of the declarations of services. They are made of the name of the service by what is put
before and behind it, and what is put behind ends in different letters for different declarations.
Only the interfaces for calls and for promises end alike: those of two services share a name if one
service is named like the other with `Promise` behind it.
-/

namespace GrpcBindings
namespace Item

def interfaceName? : Item → Option Text
  | .interface name _ _ => some name
  | _ => none

def constantName? : Item → Option Text
  | .constant name _ _ => some name
  | _ => none

end Item

/-- The names of the interfaces that are declared among items. -/
def interfaceNames (items : List Item) : List Text :=
  items.filterMap (·.interfaceName?)

def constantNames (items : List Item) : List Text :=
  items.filterMap (·.constantName?)

/-- Texts with different last characters are different. -/
theorem append_ne_append {first second : Text} {c d : Char} (ends : first.getLast? = some c)
    (otherEnds : second.getLast? = some d) (differ : c ≠ d) (t u : Text) :
    t ++ first ≠ u ++ second := by
  intro same
  have last := congrArg List.getLast? same
  rw [List.getLast?_append, List.getLast?_append, ends, otherEnds] at last
  exact differ (Option.some.inj last)

namespace ServiceContract

/-- The interfaces of a service, in their order. -/
def interfaceKinds : List (Service → Text) :=
  [implementationName, clientInterfaceName, constructorName, promiseInterfaceName]

def constantKinds : List (Service → Text) :=
  [tableName, clientName]

theorem interfaceNames_items (service : Service) (methods : List MethodContract) :
    interfaceNames (items service methods) = interfaceKinds.map (· service) :=
  filterMap_items service methods fun _ => rfl

theorem constantNames_items (service : Service) (methods : List MethodContract) :
    constantNames (items service methods) = constantKinds.map (· service) :=
  filterMap_items service methods fun _ => rfl

/-- One after another for each element, or for all elements one after another. -/
theorem flatMap_map_perm {α β : Type} (makes : List (α → β)) (xs : List α) :
    (makes.flatMap fun make => xs.map make).Perm (xs.flatMap fun x => makes.map (· x)) := by
  induction makes with
  | nil => simp
  | cons make rest ih =>
      rw [List.flatMap_cons]
      exact (ih.append_left _).trans (List.map_append_flatMap_perm xs make _)

/-- If each kind of name shows the name of the service, then names can be shared between different
kinds only. -/
theorem declaredNames_nodup_iff {services : List Service}
    (distinct : (services.map (·.name)).Nodup) (kinds : List (Service → Text))
    (shown : ∀ kind ∈ kinds, ∀ first second, kind first = kind second → first.name = second.name) :
    (services.flatMap fun service => kinds.map (· service)).Nodup ↔
      kinds.Pairwise fun kind other =>
        ∀ first ∈ services, ∀ second ∈ services, kind first ≠ other second := by
  have each : ∀ kind ∈ kinds, (services.map kind).Nodup := by
    intro kind member
    rw [List.nodup_map_iff_inj_on (distinct.of_map _)]
    intro first firstMember second secondMember same
    exact List.inj_on_of_nodup_map distinct firstMember secondMember
      (shown kind member first second same)
  rw [← (flatMap_map_perm kinds services).nodup_iff, List.nodup_flatMap]
  refine (and_iff_right each).trans (List.Pairwise.iff ?_)
  intro kind other
  simp only [Function.onFun, List.disjoint_iff_ne, List.forall_mem_map]

theorem clientInterfaceName_eq_promiseInterfaceName {first second : Service} :
    clientInterfaceName first = promiseInterfaceName second ↔
      first.name = second.name ++ "Promise" := by
  have split : promiseInterfaceName second =
      "I" ++ (second.name ++ "Promise") ++ ("Client" : Text) := by
    simp only [promiseInterfaceName, List.append_assoc]
    rfl
  rw [split, clientInterfaceName, List.append_cancel_right_eq, List.append_cancel_left_eq]

theorem name_eq_of_interface_eq :
    ∀ kind ∈ interfaceKinds, ∀ first second, kind first = kind second →
      first.name = second.name := by
  simp only [interfaceKinds, List.forall_mem_cons, implementationName, clientInterfaceName,
    constructorName, promiseInterfaceName, List.append_cancel_right_eq, List.append_cancel_left_eq,
    imp_self, implies_true, List.not_mem_nil, false_implies, and_self]

theorem name_eq_of_constant_eq :
    ∀ kind ∈ constantKinds, ∀ first second, kind first = kind second →
      first.name = second.name := by
  simp only [constantKinds, List.forall_mem_cons, tableName, clientName,
    List.append_cancel_right_eq, imp_self, implies_true, List.not_mem_nil, false_implies, and_self]

variable {services : List Service}

theorem interfaceKinds_apart_iff :
    (interfaceKinds.Pairwise fun kind other =>
        ∀ first ∈ services, ∀ second ∈ services, kind first ≠ other second) ↔
      ∀ first ∈ services, ∀ second ∈ services, first.name ≠ second.name ++ "Promise" := by
  have server (service other : Service) :
      implementationName service ≠ clientInterfaceName other ∧
        implementationName service ≠ constructorName other ∧
          implementationName service ≠ promiseInterfaceName other :=
    ⟨append_ne_append rfl rfl (by decide) _ _, append_ne_append rfl rfl (by decide) _ _,
      append_ne_append rfl rfl (by decide) _ _⟩
  have client (service other : Service) :
      clientInterfaceName service ≠ constructorName other ∧
        constructorName service ≠ promiseInterfaceName other :=
    ⟨append_ne_append rfl rfl (by decide) _ _, append_ne_append rfl rfl (by decide) _ _⟩
  simp [interfaceKinds, server, client, clientInterfaceName_eq_promiseInterfaceName]

theorem constantKinds_apart :
    constantKinds.Pairwise fun kind other =>
      ∀ first ∈ services, ∀ second ∈ services, kind first ≠ other second := by
  have apart (service other : Service) : tableName service ≠ clientName other :=
    append_ne_append rfl rfl (by decide) _ _
  simp [constantKinds, apart]

end ServiceContract

namespace Schema

open ServiceContract

variable {schema : Schema}

/-- What is read off the declarations of all services, service by service. -/
theorem filterMap_of_contracts {α : Type} {read : Item → Option α} {names : Service → List α}
    (each : ∀ service methods, (items service methods).filterMap read = names service)
    {services : List Service} {contracts : List (List Item)}
    (found : services.mapM schema.serviceContract = .ok contracts) :
    contracts.flatten.filterMap read = services.flatMap names := by
  have related := forall₂_of_mapM found
  clear found
  induction related with
  | nil => rfl
  | cons contract _ ih =>
      obtain ⟨methods, _, rfl⟩ := serviceContract_eq_ok.mp contract
      rw [List.flatten_cons, List.filterMap_append, List.flatMap_cons, each, ih]

variable {descriptors : List FileDescriptor} {id : FileId}

/-- Services with distinct names have distinct constants. They have distinct interfaces unless one
of them is named like another with `Promise` behind it. -/
theorem interfaces_distinct_iff (accepted : ofDescriptors descriptors = .ok schema)
    (known : id.index < schema.files.length)
    (distinct : ((schema.file id).services.map (·.name)).Nodup) :
    ∃ contracts, (schema.file id).services.mapM schema.serviceContract = .ok contracts ∧
      (constantNames contracts.flatten).Nodup ∧
      ((interfaceNames contracts.flatten).Nodup ↔
        ∀ first ∈ (schema.file id).services, ∀ second ∈ (schema.file id).services,
          first.name ≠ second.name ++ "Promise") := by
  obtain ⟨contracts, contracted⟩ := exists_mapM_ok (schema.file id).services
    fun _ member => serviceContract_of_service accepted known member
  refine ⟨contracts, contracted, ?_, ?_⟩
  · rw [constantNames, filterMap_of_contracts constantNames_items contracted,
      declaredNames_nodup_iff distinct constantKinds name_eq_of_constant_eq]
    exact constantKinds_apart
  · rw [interfaceNames, filterMap_of_contracts interfaceNames_items contracted,
      declaredNames_nodup_iff distinct interfaceKinds name_eq_of_interface_eq]
    exact interfaceKinds_apart_iff

/-- A service is named like the interface for promises of another. -/
def chats : List FileDescriptor :=
  [
    {
      name := some "chat.proto", package := some "chat", dependencies := []
      messages := [.mk (some "Line") []]
      services :=
        [
          {
            name := some "Chat"
            methods :=
              [
                {
                  name := some "Say", input := some ".chat.Line", output := some ".chat.Line"
                  clientStreaming := none, serverStreaming := none
                }
              ]
          },
          {
            name := some "ChatPromise"
            methods :=
              [
                {
                  name := some "Keep", input := some ".chat.Line", output := some ".chat.Line"
                  clientStreaming := none, serverStreaming := none
                }
              ]
          }
        ]
      locations := none
    }
  ]

theorem interfaces_distinct_iff_chats :
    ∃ schema, ofDescriptors chats = .ok schema ∧ 0 < schema.files.length ∧
      ((schema.file ⟨0⟩).services.map (·.name)).Nodup ∧
      ∃ contracts, (schema.file ⟨0⟩).services.mapM schema.serviceContract = .ok contracts ∧
        (constantNames contracts.flatten).Nodup ∧
        ((interfaceNames contracts.flatten).Nodup ↔
          ∀ first ∈ (schema.file ⟨0⟩).services, ∀ second ∈ (schema.file ⟨0⟩).services,
            first.name ≠ second.name ++ "Promise") := by
  have accepted : ofDescriptors chats = .ok (Registry.listing chats).schemaOf := rfl
  have known : 0 < (Registry.listing chats).schemaOf.files.length := by decide
  have distinct : (((Registry.listing chats).schemaOf.file ⟨0⟩).services.map (·.name)).Nodup := by
    decide
  exact ⟨_, accepted, known, distinct, interfaces_distinct_iff accepted known distinct⟩

/-- The calls to one service and the promises of the other have one interface. -/
theorem chats_share_interface :
    ∃ schema contracts, ofDescriptors chats = .ok schema ∧
      ((schema.file ⟨0⟩).services.map (·.name)).Nodup ∧
      (schema.file ⟨0⟩).services.mapM schema.serviceContract = .ok contracts ∧
      interfaceNames contracts.flatten =
        [
          "IChatImplementation", "IChatClient", "ChatClientConstructor", "IChatPromiseClient",
          "IChatPromiseImplementation", "IChatPromiseClient", "ChatPromiseClientConstructor",
          "IChatPromisePromiseClient"
        ] ∧
      ¬ (interfaceNames contracts.flatten).Nodup := by
  exact ⟨_, _, rfl, by decide, rfl, by decide, by decide⟩

end Schema
end GrpcBindings

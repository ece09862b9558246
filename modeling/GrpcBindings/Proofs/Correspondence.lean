import GrpcBindings.Generation
import GrpcBindings.Proofs.Module.Outcome

/-!
Files of two schemas that differ only in positions. Positions in the two schemas correspond if they
lead to messages with the same full name in files with the same path and package. Nothing else of a
message reaches generated code, so corresponding files have the same module in every sink.
-/

namespace GrpcBindings

/-- A method without the positions of its types. -/
def Method.detached (method : Method) : Method :=
  { method with input := default, output := default }

def MethodContract.detached (contract : MethodContract) : MethodContract :=
  { contract with method := contract.method.detached }

/-- A service without its methods. -/
def Service.detached (service : Service) : Service :=
  { service with methods := [] }

/-- The declarations of a service show no position. -/
theorem ServiceContract.items_detached (service : Service) (methods : List MethodContract) :
    items service.detached (methods.map .detached) = items service methods := by
  simp only [items, implementation, table, clientInterface, promiseInterface, List.flatMap_map,
    List.map_map]
  rfl

/-- Two messages of two schemas that generated code cannot tell apart. -/
structure SameMessage (first second : Schema) (id other : MessageId) : Prop where
  fullName : (first.message id).fullName = (second.message other).fullName
  path : (first.ownerOf (first.message id)).path = (second.ownerOf (second.message other)).path
  package :
    (first.ownerOf (first.message id)).package = (second.ownerOf (second.message other)).package

structure SameMethod (first second : Schema) (method other : Method) : Prop where
  detached : method.detached = other.detached
  input : SameMessage first second method.input other.input
  output : SameMessage first second method.output other.output

structure SameService (first second : Schema) (service other : Service) : Prop where
  detached : service.detached = other.detached
  methods : List.Forall₂ (SameMethod first second) service.methods other.methods

structure SameFile (first second : Schema) (file other : SchemaFile) : Prop where
  path : file.path = other.path
  comments : file.comments = other.comments
  hasMessages : file.messages.isEmpty = other.messages.isEmpty
  dependencies : file.dependencies.map (fun id => (first.file id).path) =
    other.dependencies.map fun id => (second.file id).path
  services : List.Forall₂ (SameService first second) file.services other.services

/-- Functions that agree on related elements have the same values on related lists. -/
theorem map_eq_map_of_forall₂ {α β γ : Type} {R : α → β → Prop} {f : α → γ} {g : β → γ}
    {xs : List α} {ys : List β} (related : List.Forall₂ R xs ys)
    (same : ∀ x y, R x y → f x = g y) : xs.map f = ys.map g := by
  induction related with
  | nil => rfl
  | cons first _ ih => rw [List.map_cons, List.map_cons, same _ _ first, ih]

theorem isEmpty_eq_of_forall₂ {α β : Type} {R : α → β → Prop} {xs : List α} {ys : List β}
    (related : List.Forall₂ R xs ys) : xs.isEmpty = ys.isEmpty := by
  cases related <;> rfl

section

variable {first second : Schema}

theorem SameMessage.reference {id other : MessageId} (same : SameMessage first second id other) :
    first.reference id = second.reference other := by
  simp only [Schema.reference, same.fullName, same.path, same.package]

theorem SameMessage.messageBindings {id other : MessageId}
    (same : SameMessage first second id other) :
    first.messageBindings id = second.messageBindings other := by
  rw [Schema.messageBindings, Schema.messageBindings, same.reference]

theorem SameMethod.contract {method other : Method} (same : SameMethod first second method other) :
    (MethodContract.ofMethod first method).map MethodContract.detached =
      (MethodContract.ofMethod second other).map MethodContract.detached := by
  rw [MethodContract.ofMethod, MethodContract.ofMethod, same.input.reference,
    same.output.reference]
  cases second.reference other.input with
  | error _ => rfl
  | ok request =>
      cases second.reference other.output with
      | error _ => rfl
      | ok response =>
          let contract (method : Method) : Except Error MethodContract :=
            .ok { method, key := .ofName (lowerFirst method.name), request, response }
          exact congrArg contract same.detached

/-- A contract is made of a service and its methods without their positions. -/
theorem serviceContract_eq_map (schema : Schema) (service : Service) :
    schema.serviceContract service =
      ((service.methods.map fun method =>
          (MethodContract.ofMethod schema method).map MethodContract.detached).mapM id).map
        (ServiceContract.items service.detached) := by
  rw [List.mapM_map]
  simp only [Function.comp_def, id, ← map_mapM]
  rw [Schema.serviceContract]
  cases service.methods.mapM (MethodContract.ofMethod schema) with
  | error _ => rfl
  | ok methods => exact congrArg Except.ok (ServiceContract.items_detached service methods).symm

theorem SameService.serviceContract {service other : Service}
    (same : SameService first second service other) :
    first.serviceContract service = second.serviceContract other := by
  rw [serviceContract_eq_map, serviceContract_eq_map, same.detached,
    map_eq_map_of_forall₂ same.methods fun _ _ same => same.contract]

end

namespace SameFile

variable {first second : Schema} {file other : SchemaFile}

theorem services_isEmpty (same : SameFile first second file other) :
    file.services.isEmpty = other.services.isEmpty :=
  isEmpty_eq_of_forall₂ same.services

theorem header (same : SameFile first second file other) :
    Module.header file = Module.header other := by
  simp only [Module.header, Module.mark, same.services_isEmpty, same.comments]

theorem importBlock (same : SameFile first second file other) (options : Options) :
    first.importBlock file options = second.importBlock other options := by
  have faults : first.importFaults file = second.importFaults other := by
    have checked := congrArg (List.flatMap SchemaPath.faults) same.dependencies
    rwa [List.flatMap_map, List.flatMap_map] at checked
  have dependencies : first.dependencyImports file = second.dependencyImports other := by
    have imported := congrArg (List.map (messageImport file.path)) same.dependencies
    rw [List.map_map, List.map_map] at imported
    rw [Schema.dependencyImports, Schema.dependencyImports, ← same.path]
    exact imported
  rw [Schema.importBlock_eq, Schema.importBlock_eq, faults, Schema.imports, Schema.imports,
    dependencies, same.hasMessages, same.path]

theorem exchangedMessages (same : SameFile first second file other) :
    List.Forall₂ (SameMessage first second) (Schema.exchangedMessages file)
      (Schema.exchangedMessages other) := by
  have methods : List.Forall₂ (SameMethod first second) (file.services.flatMap (·.methods))
      (other.services.flatMap (·.methods)) :=
    List.rel_flatMap same.services fun _ _ service => service.methods
  exact List.rel_flatMap methods fun _ _ method => .cons method.input (.cons method.output .nil)

end SameFile

/-- Entries with the same key, for messages that correspond. -/
def SameEntry (first second : Schema) (entry other : Text × MessageId) : Prop :=
  entry.1 = other.1 ∧ SameMessage first second entry.2 other.2

/-- Where a message is put depends on the full names alone. -/
theorem sameEntry_insertByName {first second : Schema} (fullName : Text) {id other : MessageId}
    (same : SameMessage first second id other) {sorted others : List (Text × MessageId)}
    (related : List.Forall₂ (SameEntry first second) sorted others) :
    List.Forall₂ (SameEntry first second) (Schema.insertByName fullName id sorted)
      (Schema.insertByName fullName other others) := by
  induction related with
  | nil => exact .cons ⟨rfl, same⟩ .nil
  | cons head tail ih =>
      rw [Schema.insertByName, Schema.insertByName, head.1]
      split
      · exact .cons ⟨rfl, same⟩ (.cons head tail)
      · split
        · exact .cons ⟨rfl, same⟩ tail
        · exact .cons head ih

theorem SameFile.reachableMessages {first second : Schema} {file other : SchemaFile}
    (same : SameFile first second file other) :
    List.Forall₂ (SameMessage first second) (first.reachableMessages file)
      (second.reachableMessages other) := by
  rw [Schema.reachableMessages, Schema.reachableMessages, List.forall₂_map_left_iff,
    List.forall₂_map_right_iff]
  have step {sorted others : List (Text × MessageId)}
      (related : List.Forall₂ (SameEntry first second) sorted others) {id other : MessageId}
      (message : SameMessage first second id other) :
      List.Forall₂ (SameEntry first second)
        (Schema.insertByName (first.message id).fullName id sorted)
        (Schema.insertByName (second.message other).fullName other others) := by
    rw [message.fullName]
    exact sameEntry_insertByName _ message related
  have sorted := List.rel_foldl (R := SameMessage first second)
    (P := List.Forall₂ (SameEntry first second))
    (fun _ _ related _ _ message => step related message) .nil same.exchangedMessages
  exact sorted.imp fun _ _ entry => entry.2

namespace Module

/-- Loops whose bodies agree on related elements are the same. -/
theorem forM_eq_of_forall₂ {α β : Type} {R : α → β → Prop} {f : α → Printing Unit}
    {g : β → Printing Unit} {xs : List α} {ys : List β} (related : List.Forall₂ R xs ys)
    (same : ∀ x y, R x y → f x = g y) : xs.forM f = ys.forM g := by
  rw [List.forM_eq_forM, List.forM_eq_forM]
  induction related with
  | nil => rfl
  | cons first _ ih => rw [List.forM_cons, List.forM_cons, same _ _ first, ih]

variable {first second : Schema}

theorem printStage_of_sameFile {file other : SchemaFile} (same : SameFile first second file other)
    (options : Options) (stage : Stage) :
    printStage first file options stage = printStage second other options stage := by
  cases stage with
  | start | done => rfl
  | header => exact congrArg Item.printAll same.header
  | imports => rw [printStage, printStage, same.importBlock options]
  | messageBindings =>
      apply forM_eq_of_forall₂ same.reachableMessages
      intro id other message
      rw [message.messageBindings]
  | serviceContracts =>
      apply forM_eq_of_forall₂ same.services
      intro service other same
      rw [same.serviceContract]

variable {id other : FileId}

theorem print_of_sameFile (same : SameFile first second (first.file id) (second.file other))
    (options : Options) : print first id options = print second other options := by
  rw [print, print, same.path]
  simp only [funext (printStage_of_sameFile same options)]

theorem write_of_sameFile (same : SameFile first second (first.file id) (second.file other))
    (options : Options) (sink : Sink) :
    write first id options sink = write second other options sink := by
  rw [write, write, print_of_sameFile same]

end Module

theorem Schema.generate_of_sameFile {first second : Schema} {id other : FileId}
    (same : SameFile first second (first.file id) (second.file other)) (options : Options) :
    first.generate id options = second.generate other options := by
  rw [generate, generate, Module.write_of_sameFile same, same.path]

end GrpcBindings

import GrpcBindings.Proofs.Schema.Representation
import GrpcBindings.ServiceContract

/-!
References to the messages of an accepted schema. They exist for every message that a file's methods
exchange, so the bindings of those messages and the contracts of the file's services exist too.
-/

namespace GrpcBindings
namespace Schema

theorem mem_insertByName {fullName : Text} {id : MessageId} {sorted : List (Text × MessageId)}
    {entry : Text × MessageId} (member : entry ∈ insertByName fullName id sorted) :
    entry = (fullName, id) ∨ entry ∈ sorted := by
  induction sorted with
  | nil => exact .inl (List.mem_singleton.mp member)
  | cons head tail ih =>
      rw [insertByName] at member
      split at member
      · exact List.mem_cons.mp member
      · split at member
        · rcases List.mem_cons.mp member with same | later
          · exact .inl same
          · exact .inr (List.mem_cons_of_mem head later)
        · rcases List.mem_cons.mp member with rfl | later
          · exact .inr List.mem_cons_self
          · exact (ih later).imp_right (List.mem_cons_of_mem head)

/-- Nothing is lost but an entry with the same full name. -/
theorem mem_keys_insertByName {fullName key : Text} {id : MessageId}
    {sorted : List (Text × MessageId)} :
    key ∈ (insertByName fullName id sorted).map Prod.fst ↔
      key = fullName ∨ key ∈ sorted.map Prod.fst := by
  induction sorted with
  | nil => simp [insertByName]
  | cons head tail ih =>
      rw [insertByName]
      split
      · simp
      · split
        · rename_i same
          simp [same]
        · rw [List.map_cons, List.mem_cons, ih, List.map_cons, List.mem_cons]
          exact or_left_comm

/-- Entries stay in the order of their full names. -/
theorem sorted_insertByName (fullName : Text) (id : MessageId) {sorted : List (Text × MessageId)}
    (ordered : (sorted.map Prod.fst).Pairwise (· < ·)) :
    ((insertByName fullName id sorted).map Prod.fst).Pairwise (· < ·) := by
  induction sorted with
  | nil => simp [insertByName]
  | cons head tail ih =>
      rw [List.map_cons, List.pairwise_cons] at ordered
      obtain ⟨first, rest⟩ := ordered
      rw [insertByName]
      split
      · rename_i before
        simp only [List.map_cons, List.pairwise_cons, List.forall_mem_cons]
        exact ⟨⟨before, fun key member => List.lt_trans before (first key member)⟩, first, rest⟩
      split
      · rename_i same
        rw [List.map_cons, List.pairwise_cons]
        exact ⟨fun key member => same ▸ first key member, rest⟩
      · rename_i notBefore different
        have behind : head.1 < fullName :=
          (List.le_iff_lt_or_eq.mp (List.not_lt.mp notBefore)).resolve_right (Ne.symm different)
        rw [List.map_cons, List.pairwise_cons]
        refine ⟨?_, ih rest⟩
        intro key member
        rcases mem_keys_insertByName.mp member with rfl | later
        · exact behind
        · exact first key later

private theorem mem_foldl_insertByName (name : MessageId → Text) (ids : List MessageId)
    (sorted : List (Text × MessageId)) {entry : Text × MessageId}
    (member : entry ∈ ids.foldl (fun sorted id => insertByName (name id) id sorted) sorted) :
    (entry.2 ∈ ids ∧ entry.1 = name entry.2) ∨ entry ∈ sorted := by
  induction ids generalizing sorted with
  | nil => exact .inr member
  | cons id ids ih =>
      rcases ih _ member with ⟨later, named⟩ | earlier
      · exact .inl ⟨List.mem_cons_of_mem id later, named⟩
      · rcases mem_insertByName earlier with rfl | old
        · exact .inl ⟨List.mem_cons_self, rfl⟩
        · exact .inr old

private theorem mem_keys_foldl_insertByName (name : MessageId → Text) (ids : List MessageId)
    (sorted : List (Text × MessageId)) {key : Text} :
    key ∈ (ids.foldl (fun sorted id => insertByName (name id) id sorted) sorted).map Prod.fst ↔
      key ∈ ids.map name ∨ key ∈ sorted.map Prod.fst := by
  induction ids generalizing sorted with
  | nil => simp
  | cons id ids ih =>
      rw [List.foldl_cons, ih, mem_keys_insertByName, List.map_cons, List.mem_cons, or_left_comm,
        or_assoc]

private theorem sorted_foldl_insertByName (name : MessageId → Text) (ids : List MessageId)
    {sorted : List (Text × MessageId)} (ordered : (sorted.map Prod.fst).Pairwise (· < ·)) :
    ((ids.foldl (fun sorted id => insertByName (name id) id sorted) sorted).map
      Prod.fst).Pairwise (· < ·) := by
  induction ids generalizing sorted with
  | nil => exact ordered
  | cons id ids ih => exact ih (sorted_insertByName (name id) id ordered)

/-- The full names of reachable messages ascend, so none of them comes twice. -/
theorem fullNames_reachableMessages (schema : Schema) (file : SchemaFile) :
    ((schema.reachableMessages file).map fun id => (schema.message id).fullName).Pairwise
      (· < ·) := by
  have names : ((schema.reachableMessages file).map fun id => (schema.message id).fullName) =
      ((exchangedMessages file).foldl
        (fun sorted id => insertByName (schema.message id).fullName id sorted) []).map
          Prod.fst := by
    rw [reachableMessages, List.map_map]
    apply List.map_congr_left
    intro entry member
    rcases mem_foldl_insertByName _ _ _ member with ⟨_, named⟩ | none
    · exact named.symm
    · cases none
  rw [names]
  exact sorted_foldl_insertByName _ _ .nil

theorem reachableMessages_nodup (schema : Schema) (file : SchemaFile) :
    (schema.reachableMessages file).Nodup := by
  apply List.Nodup.of_map fun id => (schema.message id).fullName
  apply (schema.fullNames_reachableMessages file).imp
  intro fullName other before same
  exact List.lt_irrefl other (same ▸ before)

/-- Only messages that are exchanged are reachable. -/
theorem exchanged_of_reachable {schema : Schema} {file : SchemaFile} {id : MessageId}
    (reachable : id ∈ schema.reachableMessages file) : id ∈ exchangedMessages file := by
  obtain ⟨entry, member, rfl⟩ := List.mem_map.mp reachable
  rcases mem_foldl_insertByName _ _ _ member with ⟨exchanged, _⟩ | none
  · exact exchanged
  · cases none

variable {descriptors : List FileDescriptor} {schema : Schema}

/-- The messages that a file's methods exchange are messages of the schema. -/
theorem exchanged_known (accepted : ofDescriptors descriptors = .ok schema) {file : FileId}
    (known : file.index < schema.files.length) {id : MessageId}
    (exchanged : id ∈ exchangedMessages (schema.file file)) :
    id.index < schema.messages.length := by
  obtain ⟨service, serviceMember, method, methodMember, isType⟩ :=
    mem_exchangedMessages.mp exchanged
  obtain ⟨input, output⟩ := (inRange_of_accepted accepted).types _ (file_mem_of_known known)
    service serviceMember method methodMember
  rcases isType with rfl | rfl
  · exact input
  · exact output

theorem reference_of_known (accepted : ofDescriptors descriptors = .ok schema) {id : MessageId}
    (known : id.index < schema.messages.length) :
    ∃ reference name, schema.reference id = .ok reference ∧
      reference.objectPath =
        moduleAlias (schema.ownerOf (schema.message id)).path ++ "." ++ name := by
  obtain ⟨name, found⟩ := objectPath_of_known accepted known
  let reference : MessageReference :=
    {
      objectPath := moduleAlias (schema.ownerOf (schema.message id)).path ++ "." ++ name
      serializer := "serialize_" ++ flatName (schema.message id).fullName
      deserializer := "deserialize_" ++ flatName (schema.message id).fullName
    }
  refine ⟨reference, name, ?_, rfl⟩
  rw [Schema.reference, found]
  rfl

/-- Every message that is exchanged is reachable, since no other message has its full name. -/
theorem mem_reachableMessages (accepted : ofDescriptors descriptors = .ok schema)
    {file : SchemaFile}
    (known : ∀ id ∈ exchangedMessages file, id.index < schema.messages.length) {id : MessageId} :
    id ∈ schema.reachableMessages file ↔ id ∈ exchangedMessages file := by
  refine ⟨exchanged_of_reachable, ?_⟩
  intro exchanged
  have key := (mem_keys_foldl_insertByName (fun id => (schema.message id).fullName) _ []).mpr
    (.inl (List.mem_map_of_mem exchanged))
  obtain ⟨entry, member, same⟩ := List.mem_map.mp key
  rcases mem_foldl_insertByName _ _ _ member with ⟨otherExchanged, named⟩ | none
  · have distinct := eq_of_fullName_eq accepted (known entry.2 otherExchanged)
      (known id exchanged) (named.symm.trans same)
    rw [← distinct]
    exact List.mem_map_of_mem member
  · cases none

variable {file : FileId}

theorem reachable_iff_exchanged (accepted : ofDescriptors descriptors = .ok schema)
    (known : file.index < schema.files.length) (id : MessageId) :
    id ∈ schema.reachableMessages (schema.file file) ↔ id ∈ exchangedMessages (schema.file file) :=
  mem_reachableMessages accepted fun _ => exchanged_known accepted known

theorem reachable_of_exchanged (accepted : ofDescriptors descriptors = .ok schema)
    (known : file.index < schema.files.length) {id : MessageId}
    (exchanged : id ∈ exchangedMessages (schema.file file)) :
    id ∈ schema.reachableMessages (schema.file file) :=
  (reachable_iff_exchanged accepted known id).mpr exchanged

theorem messageBindings_of_reachable (accepted : ofDescriptors descriptors = .ok schema)
    (known : file.index < schema.files.length) {id : MessageId}
    (reachable : id ∈ schema.reachableMessages (schema.file file)) :
    ∃ bindings, schema.messageBindings id = .ok bindings := by
  have exchanged := exchanged_known accepted known (exchanged_of_reachable reachable)
  obtain ⟨reference, _, found, _⟩ := reference_of_known accepted exchanged
  exact ⟨_, by rw [messageBindings, found]; rfl⟩

theorem methodContract_of_method (accepted : ofDescriptors descriptors = .ok schema)
    (known : file.index < schema.files.length) {service : Service}
    (serviceMember : service ∈ (schema.file file).services) {method : Method}
    (methodMember : method ∈ service.methods) :
    ∃ contract, MethodContract.ofMethod schema method = .ok contract ∧
      schema.reference method.input = .ok contract.request ∧
      schema.reference method.output = .ok contract.response := by
  have exchanged (id : MessageId) (isType : id = method.input ∨ id = method.output) :=
    exchanged_known accepted known
      (mem_exchangedMessages.mpr ⟨service, serviceMember, method, methodMember, isType⟩)
  obtain ⟨request, _, input, _⟩ := reference_of_known accepted (exchanged _ (.inl rfl))
  obtain ⟨response, _, output, _⟩ := reference_of_known accepted (exchanged _ (.inr rfl))
  refine ⟨{ method, key := .ofName (lowerFirst method.name), request, response }, ?_, input, output⟩
  rw [MethodContract.ofMethod, input, output]
  rfl

theorem serviceContract_of_service (accepted : ofDescriptors descriptors = .ok schema)
    (known : file.index < schema.files.length) {service : Service}
    (serviceMember : service ∈ (schema.file file).services) :
    ∃ contract, schema.serviceContract service = .ok contract := by
  have methods :
      ∃ methods, service.methods.mapM (MethodContract.ofMethod schema) = .ok methods := by
    apply exists_mapM_ok
    intro method methodMember
    obtain ⟨contract, found, _⟩ :=
      methodContract_of_method accepted known serviceMember methodMember
    exact ⟨contract, found⟩
  obtain ⟨methods, found⟩ := methods
  exact ⟨_, by rw [serviceContract, found]; rfl⟩

end Schema
end GrpcBindings

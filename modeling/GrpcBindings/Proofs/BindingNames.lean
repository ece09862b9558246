import Mathlib.Data.List.Perm.Basic
import GrpcBindings.Proofs.MethodTable

/-!
Names of the functions that convert messages. They are made from full names with underscores in
place of dots, so full names that differ only in dots and underscores have the same functions. No
other full names have, and the two functions of a message never share a name.
-/

namespace GrpcBindings

/-- Characters that are the same in a flat name. -/
def Alike (c d : Char) : Prop :=
  c = d ∨ (c = '.' ∨ c = '_') ∧ (d = '.' ∨ d = '_')

/-- Full names that differ in nothing but dots and underscores. -/
def Confusable (first second : Text) : Prop :=
  List.Forall₂ Alike first second

theorem flatName_eq_iff {first second : Text} :
    flatName first = flatName second ↔ Confusable first second := by
  have characters (c d : Char) :
      ((if c = '.' then '_' else c) = if d = '.' then '_' else d) ↔ Alike c d := by
    unfold Alike
    by_cases dot : c = '.'
    · by_cases otherDot : d = '.'
      · simp [dot, otherDot]
      · simp [dot, otherDot, eq_comm]
    · by_cases otherDot : d = '.'
      · simp [dot, otherDot]
      · simp only [dot, otherDot, if_false, false_or]
        constructor
        · exact .inl
        · rintro (same | ⟨rfl, rfl⟩)
          · exact same
          · rfl
  rw [flatName, flatName, ← List.forall₂_eq_eq_eq, List.forall₂_map_left_iff,
    List.forall₂_map_right_iff]
  simp only [characters]
  rfl

/-- Names without underscores are told apart. -/
theorem Confusable.eq_of_plain {first second : Text} (confusable : Confusable first second)
    (plain : '_' ∉ first) (otherPlain : '_' ∉ second) : first = second := by
  induction confusable with
  | nil => rfl
  | cons alike _ ih =>
      rw [List.mem_cons, not_or] at plain otherPlain
      rw [ih plain.2 otherPlain.2]
      rcases alike with same | ⟨dot | underscore, otherDot | otherUnderscore⟩
      · rw [same]
      · rw [dot, otherDot]
      · exact absurd otherUnderscore.symm otherPlain.1
      · exact absurd underscore.symm plain.1
      · exact absurd underscore.symm plain.1

/-- The functions of a message with a full name. -/
def serializerName (fullName : Text) : Text :=
  "serialize_" ++ flatName fullName

def deserializerName (fullName : Text) : Text :=
  "deserialize_" ++ flatName fullName

theorem serializerName_eq_iff {first second : Text} :
    serializerName first = serializerName second ↔ Confusable first second := by
  rw [serializerName, serializerName, List.append_cancel_left_eq, flatName_eq_iff]

theorem deserializerName_eq_iff {first second : Text} :
    deserializerName first = deserializerName second ↔ Confusable first second := by
  rw [deserializerName, deserializerName, List.append_cancel_left_eq, flatName_eq_iff]

theorem serializerName_ne_deserializerName (first second : Text) :
    serializerName first ≠ deserializerName second := by
  intro same
  have initial := congrArg List.head? same
  cases initial

namespace Schema

variable {schema : Schema}

theorem names_of_reference {id : MessageId} {message : MessageReference}
    (found : schema.reference id = .ok message) :
    message.serializer = serializerName (schema.message id).fullName ∧
      message.deserializer = deserializerName (schema.message id).fullName := by
  obtain ⟨_, _, rfl⟩ := bind_pure_eq_ok.mp found
  exact ⟨rfl, rfl⟩

theorem functionNames_of_bindings {ids : List MessageId} {bindings : List (List Item)}
    (bound : ids.mapM schema.messageBindings = .ok bindings) :
    functionNames bindings.flatten = ids.flatMap fun id =>
      [serializerName (schema.message id).fullName,
        deserializerName (schema.message id).fullName] := by
  have related := forall₂_of_mapM bound
  clear bound
  induction related with
  | nil => rfl
  | cons found _ ih =>
      obtain ⟨message, reference, rfl⟩ := messageBindings_eq_ok.mp found
      obtain ⟨serializer, deserializer⟩ := names_of_reference reference
      rw [List.flatten_cons, functionNames, List.filterMap_append, ← functionNames, ← functionNames,
        functionNames_bindings, ih, serializer, deserializer]
      rfl

/-- Which names are shared depends on the full names alone. -/
theorem functionNames_nodup_iff {ids : List MessageId} (distinct : ids.Nodup)
    {bindings : List (List Item)} (bound : ids.mapM schema.messageBindings = .ok bindings) :
    (functionNames bindings.flatten).Nodup ↔
      ∀ first ∈ ids, ∀ second ∈ ids,
        Confusable (schema.message first).fullName (schema.message second).fullName →
          first = second := by
  let serializers := ids.map fun id => serializerName (schema.message id).fullName
  let deserializers := ids.map fun id => deserializerName (schema.message id).fullName
  have apart : ∀ name ∈ serializers, ∀ other ∈ deserializers, name ≠ other := by
    simp only [serializers, deserializers, List.forall_mem_map]
    exact fun _ _ _ _ => serializerName_ne_deserializerName _ _
  have rearranged : (serializers ++ deserializers).Perm (functionNames bindings.flatten) := by
    rw [functionNames_of_bindings bound]
    have pairs := List.map_append_flatMap_perm ids
      (fun id => serializerName (schema.message id).fullName)
      fun id => [deserializerName (schema.message id).fullName]
    rwa [← List.map_eq_flatMap] at pairs
  rw [← rearranged.nodup_iff, List.nodup_append]
  simp only [serializers, deserializers, List.nodup_map_iff_inj_on distinct, serializerName_eq_iff,
    deserializerName_eq_iff]
  exact ⟨fun names => names.1, fun names => ⟨names, names, apart⟩⟩

variable {descriptors : List FileDescriptor} {id : FileId}

/-- The functions of a file have distinct names unless two messages that its methods exchange have
full names that differ only in dots and underscores. -/
theorem functionNames_distinct_iff (accepted : ofDescriptors descriptors = .ok schema)
    (known : id.index < schema.files.length) :
    ∃ bindings,
      (schema.reachableMessages (schema.file id)).mapM schema.messageBindings = .ok bindings ∧
      ((functionNames bindings.flatten).Nodup ↔
        ∀ first ∈ exchangedMessages (schema.file id),
          ∀ second ∈ exchangedMessages (schema.file id),
            Confusable (schema.message first).fullName (schema.message second).fullName →
              first = second) ∧
      ((∀ message ∈ exchangedMessages (schema.file id),
          '_' ∉ (schema.message message).fullName) →
        (functionNames bindings.flatten).Nodup) := by
  obtain ⟨bindings, bound⟩ := exists_mapM_ok (schema.reachableMessages (schema.file id))
    fun _ reachable => messageBindings_of_reachable accepted known reachable
  have names := functionNames_nodup_iff (schema.reachableMessages_nodup (schema.file id)) bound
  simp only [reachable_iff_exchanged accepted known] at names
  refine ⟨bindings, bound, names, ?_⟩
  intro plain
  rw [names]
  intro first firstMember second secondMember confusable
  exact eq_of_fullName_eq accepted (exchanged_known accepted known firstMember)
    (exchanged_known accepted known secondMember)
    (confusable.eq_of_plain (plain first firstMember) (plain second secondMember))

/-- A method takes a nested message and gives one with an underscore at the place of the dot. -/
def lookalikes : List FileDescriptor :=
  [
    {
      name := some "shop.proto", package := some "shop", dependencies := []
      messages := [.mk (some "Order") [.mk (some "Line") []], .mk (some "Order_Line") []]
      services :=
        [
          {
            name := some "Orders"
            methods :=
              [
                {
                  name := some "Flatten", input := some ".shop.Order.Line"
                  output := some ".shop.Order_Line", clientStreaming := none
                  serverStreaming := none
                }
              ]
          }
        ]
      locations := none
    }
  ]

theorem functionNames_distinct_iff_lookalikes :
    ∃ schema, ofDescriptors lookalikes = .ok schema ∧ 0 < schema.files.length ∧
      ∃ bindings,
        (schema.reachableMessages (schema.file ⟨0⟩)).mapM schema.messageBindings = .ok bindings ∧
        ((functionNames bindings.flatten).Nodup ↔
          ∀ first ∈ exchangedMessages (schema.file ⟨0⟩),
            ∀ second ∈ exchangedMessages (schema.file ⟨0⟩),
              Confusable (schema.message first).fullName (schema.message second).fullName →
                first = second) ∧
        ((∀ message ∈ exchangedMessages (schema.file ⟨0⟩),
            '_' ∉ (schema.message message).fullName) →
          (functionNames bindings.flatten).Nodup) := by
  have accepted : ofDescriptors lookalikes = .ok (Registry.listing lookalikes).schemaOf := rfl
  have known : 0 < (Registry.listing lookalikes).schemaOf.files.length := by decide
  exact ⟨_, accepted, known, functionNames_distinct_iff accepted known⟩

/-- Two reachable messages with different full names share their functions. -/
theorem lookalikes_share_functions :
    ∃ schema bindings, ofDescriptors lookalikes = .ok schema ∧
      (schema.reachableMessages (schema.file ⟨0⟩)).map (fun id => (schema.message id).fullName) =
        ["shop.Order.Line", "shop.Order_Line"] ∧
      (schema.reachableMessages (schema.file ⟨0⟩)).mapM schema.messageBindings = .ok bindings ∧
      ¬ (functionNames bindings.flatten).Nodup := by
  refine ⟨_, _, rfl, rfl, rfl, ?_⟩
  decide

end Schema
end GrpcBindings

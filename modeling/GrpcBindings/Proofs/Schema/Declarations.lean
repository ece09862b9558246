import Mathlib.Data.List.Forall2
import Mathlib.Data.List.Induction
import GrpcBindings.Proofs.FirstFault
import GrpcBindings.Proofs.NameIndex
import GrpcBindings.Proofs.Schema.FullNames
import GrpcBindings.Schema.Registry

/-!
The registry of a list of descriptors: the files in their order, and the full names of their
messages, each before those of the messages nested in it. Registering meets a fault at every path
and at every full name that came before, and adds what it registers behind what is there. So each
index leads from a name to its first position, as long as names are put into both.
-/

namespace GrpcBindings
namespace MessageDescriptor

/-- The positions of messages that are declared from a position on, without the nested ones. -/
def topLevelIds (scope : Text) (position : Nat) : List MessageDescriptor → List MessageId
  | [] => []
  | first :: rest =>
      ⟨position⟩ :: topLevelIds scope (position + (first.fullNames scope).length) rest

end MessageDescriptor

namespace Registry

open MessageDescriptor

/-- The messages with these full names in a file. -/
def ownedBy (owner : FileId) (fullNames : List Text) : List MessageType :=
  fullNames.map fun fullName => ⟨fullName, owner⟩

/-- What is wrong with one more declaration of a full name. -/
def repeated (messages : List MessageType) (fullName : Text) : List Clash :=
  ((messages.find? fun message => message.fullName = fullName).map fun earlier =>
    (⟨fullName, earlier.owner⟩ : Clash)).toList

/-- The full names that clash when these are declared one after another. -/
def clashes (owner : FileId) (messages : List MessageType) : List Text → List Clash
  | [] => []
  | fullName :: rest =>
      repeated messages fullName ++ clashes owner (messages ++ [⟨fullName, owner⟩]) rest

theorem clashes_append (owner : FileId) (messages : List MessageType) (first second : List Text) :
    clashes owner messages (first ++ second) =
      clashes owner messages first ++ clashes owner (messages ++ ownedBy owner first) second := by
  induction first generalizing messages with
  | nil => simp [clashes, ownedBy]
  | cons fullName rest ih =>
      simp only [List.cons_append, clashes, ih, ownedBy, List.map_cons, List.append_assoc,
        List.nil_append]

end Registry

namespace MessageTable

open MessageDescriptor Registry

/-- The index leads from each full name to the first message with it. -/
def Indexed (table : MessageTable) : Prop :=
  table.messageIndex.Positions .mk (table.messages.map (·.fullName))

/-- The table with one more message, whether or not its full name is known. -/
def put (table : MessageTable) (message : MessageType) : MessageTable where
  messages := table.messages ++ [message]
  messageIndex := table.messageIndex.insertNew message.fullName ⟨table.messages.length⟩

def putAll (table : MessageTable) (messages : List MessageType) : MessageTable :=
  messages.foldl put table

theorem putAll_append (table : MessageTable) (first second : List MessageType) :
    table.putAll (first ++ second) = (table.putAll first).putAll second :=
  List.foldl_append

theorem messages_putAll (table : MessageTable) (messages : List MessageType) :
    (table.putAll messages).messages = table.messages ++ messages := by
  induction messages generalizing table with
  | nil => exact (List.append_nil _).symm
  | cons first rest ih =>
      rw [List.append_cons]
      exact ih (table.put first)

theorem Indexed.put {table : MessageTable} (indexed : table.Indexed) (message : MessageType) :
    (table.put message).Indexed := by
  have positions := indexed.insertNew message.fullName
  rw [List.length_map] at positions
  rw [Indexed, MessageTable.put, List.map_append]
  exact positions

theorem Indexed.putAll {table : MessageTable} (indexed : table.Indexed)
    (messages : List MessageType) : (table.putAll messages).Indexed := by
  induction messages generalizing table with
  | nil => exact indexed
  | cons first rest ih => exact ih (indexed.put first)

variable {table : MessageTable}

/-- The index finds the message that a search from the first one finds. -/
theorem Indexed.find?_eq (indexed : table.Indexed) (fullName : Text) :
    (table.messages.find? fun message => message.fullName = fullName) =
      (table.messageIndex.find? fullName).map table.message := by
  rw [List.find?_eq_bind_findIdx?_getElem?, indexed, List.findIdx?_map, Option.map_map,
    Option.map_eq_bind]
  apply Option.bind_congr
  intro position found
  obtain ⟨within, _⟩ := List.findIdx?_eq_some_iff_getElem.mp found
  simp [message, List.getElem?_eq_getElem within]

theorem declare_eq (indexed : table.Indexed) (owner : FileId) (fullName : Text) :
    table.declare owner fullName =
      firstFault (repeated table.messages fullName)
        (⟨table.messages.length⟩, table.put ⟨fullName, owner⟩) := by
  rw [declare, repeated, indexed.find?_eq, put, NameIndex.insertNew, NameIndex.insert]
  cases table.messageIndex.find? fullName <;> rfl

mutual

theorem declareMessage_eq (owner : FileId) (scope : Text) :
    (message : MessageDescriptor) → (table : MessageTable) → table.Indexed →
      declareMessage owner scope message table =
        firstFault (clashes owner table.messages (message.fullNames scope))
          (⟨table.messages.length⟩, table.putAll (ownedBy owner (message.fullNames scope)))
  | .mk name nested, table, indexed => by
      have inner := declareMessages_eq owner (qualify scope (name.getD [])) nested _
        (indexed.put ⟨qualify scope (name.getD []), owner⟩)
      simp only [declareMessage, declare_eq indexed, MessageDescriptor.fullNames, clashes]
      cases repeated table.messages (qualify scope (name.getD [])) with
      | cons _ _ => rfl
      | nil =>
          simp only [firstFault, inner, List.nil_append]
          rw [put]
          cases clashes owner _ (allFullNames (qualify scope (name.getD [])) nested) with
          | cons _ _ => rfl
          | nil => rfl

theorem declareMessages_eq (owner : FileId) (scope : Text) :
    (descriptors : List MessageDescriptor) → (table : MessageTable) → table.Indexed →
      declareMessages owner scope descriptors table =
        firstFault (clashes owner table.messages (allFullNames scope descriptors))
          (topLevelIds scope table.messages.length descriptors,
            table.putAll (ownedBy owner (allFullNames scope descriptors)))
  | [], table, _ => rfl
  | first :: rest, table, indexed => by
      have others := declareMessages_eq owner scope rest _
        (indexed.putAll (ownedBy owner (first.fullNames scope)))
      rw [messages_putAll] at others
      simp only [declareMessages, declareMessage_eq owner scope first table indexed, allFullNames,
        clashes_append, topLevelIds]
      cases clashes owner table.messages (first.fullNames scope) with
      | cons _ _ => rfl
      | nil =>
          simp only [firstFault, others, List.nil_append]
          cases clashes owner _ (allFullNames scope rest) with
          | cons _ _ => rfl
          | nil =>
              simp only [ownedBy, List.map_append, putAll_append, List.length_append,
                List.length_map]

end

end MessageTable

namespace Registry

open MessageDescriptor

/-- The registry with one more file, whether or not anything in it clashes. -/
def extend (registry : Registry) (file : FileDescriptor) : Registry :=
  { registry.toMessageTable.putAll (ownedBy ⟨registry.files.length⟩ file.fullNames) with
    files := registry.files ++
      [⟨file, topLevelIds file.packageName registry.messages.length file.messages⟩]
    fileIndex := registry.fileIndex.insertNew file.path ⟨registry.files.length⟩ }

theorem messages_extend (registry : Registry) (file : FileDescriptor) :
    (registry.extend file).messages =
      registry.messages ++ ownedBy ⟨registry.files.length⟩ file.fullNames :=
  registry.toMessageTable.messages_putAll _

/-- Everything that a list of descriptors declares. -/
def listing (descriptors : List FileDescriptor) : Registry :=
  descriptors.foldl extend empty

theorem listing_append_singleton (descriptors : List FileDescriptor) (file : FileDescriptor) :
    listing (descriptors ++ [file]) = (listing descriptors).extend file := by
  simp only [listing, List.foldl_append, List.foldl_cons, List.foldl_nil]

theorem listing_descriptors (descriptors : List FileDescriptor) :
    (listing descriptors).files.map (·.descriptor) = descriptors := by
  induction descriptors using List.reverseRecOn with
  | nil => rfl
  | append_singleton descriptors file ih =>
      rw [listing_append_singleton, extend, List.map_append, ih]
      rfl

theorem listing_files_length (descriptors : List FileDescriptor) :
    (listing descriptors).files.length = descriptors.length := by
  have lengths := congrArg List.length (listing_descriptors descriptors)
  rwa [List.length_map] at lengths

/-- The position of a message leads to its full name, wherever the messages before it end. -/
theorem topLevelIds_declared (owner : FileId) (scope : Text) (descriptors : List MessageDescriptor)
    (before after : List MessageType) :
    List.Forall₂
      (fun id message => (before ++ ownedBy owner (allFullNames scope descriptors) ++
        after)[id.index]? = some ⟨message.fullName scope, owner⟩)
      (topLevelIds scope before.length descriptors) descriptors := by
  induction descriptors generalizing before with
  | nil => exact .nil
  | cons first rest ih =>
      obtain ⟨nested, names⟩ := first.fullNames_eq_cons scope
      have positions : before.length + (first.fullNames scope).length =
          (before ++ ownedBy owner (first.fullNames scope)).length := by
        rw [List.length_append, ownedBy, List.length_map]
      have table : before ++ ownedBy owner (allFullNames scope (first :: rest)) ++ after =
          before ++ ownedBy owner (first.fullNames scope) ++
            ownedBy owner (allFullNames scope rest) ++ after := by
        simp only [allFullNames, ownedBy, List.map_append, List.append_assoc]
      rw [topLevelIds, positions, table]
      refine .cons ?_ (ih _)
      simp [names, ownedBy]

/-- A file is registered with the positions of the messages that its descriptor has on the outside.
What is declared later does not move them. -/
theorem listing_topLevel (descriptors : List FileDescriptor) :
    ∀ (position : Nat) (file : RegisteredFile), (listing descriptors).files[position]? = some file →
      List.Forall₂
        (fun id message => (listing descriptors).messages[id.index]? =
          some ⟨message.fullName file.descriptor.packageName, ⟨position⟩⟩)
        file.messages file.descriptor.messages := by
  induction descriptors using List.reverseRecOn with
  | nil =>
      intro position file found
      cases found
  | append_singleton descriptors descriptor ih =>
      rw [listing_append_singleton, messages_extend, FileDescriptor.fullNames_eq]
      intro position file found
      rw [extend, List.getElem?_append] at found
      split at found
      · apply (ih position file found).imp
        intro id message declared
        rw [List.getElem?_append_left (List.getElem?_eq_some_iff.mp declared).1, declared]
      · have within := (List.getElem?_eq_some_iff.mp found).1
        rw [List.length_singleton] at within
        obtain rfl : position = (listing descriptors).files.length := by omega
        rw [Nat.sub_self] at found
        cases found
        have declared := topLevelIds_declared ⟨(listing descriptors).files.length⟩
          descriptor.packageName descriptor.messages (listing descriptors).messages []
        rw [List.append_nil] at declared
        exact declared

/-- The owner of a message is the position of the file that declares it. -/
theorem listing_messages (descriptors : List FileDescriptor) :
    (listing descriptors).messages =
      descriptors.zipIdx.flatMap fun (file, position) => ownedBy ⟨position⟩ file.fullNames := by
  induction descriptors using List.reverseRecOn with
  | nil => rfl
  | append_singleton descriptors file ih =>
      rw [listing_append_singleton, messages_extend, ih, listing_files_length, List.zipIdx_append,
        List.flatMap_append]
      simp only [Nat.zero_add, List.zipIdx_singleton, List.flatMap_singleton]

theorem ownedBy_fullNames (owner : FileId) (fullNames : List Text) :
    (ownedBy owner fullNames).map (·.fullName) = fullNames := by
  simp [ownedBy, Function.comp_def]

theorem listing_fullNames (descriptors : List FileDescriptor) :
    (listing descriptors).messages.map (·.fullName) = descriptors.flatMap (·.fullNames) := by
  simp only [listing_messages, List.map_flatMap, ownedBy_fullNames]
  rw [← List.flatMap_map (fun file : FileDescriptor × Nat => file.1), List.zipIdx_map_fst]

/-- The index of full names leads into the messages. -/
theorem listing_indexed (descriptors : List FileDescriptor) :
    (listing descriptors).toMessageTable.Indexed := by
  induction descriptors using List.reverseRecOn with
  | nil => exact NameIndex.Positions.empty _
  | append_singleton descriptors file ih =>
      rw [listing_append_singleton]
      exact ih.putAll _

/-- The index of paths leads to the files in their order. -/
theorem listing_fileIndex (descriptors : List FileDescriptor) :
    (listing descriptors).fileIndex.Positions .mk (descriptors.map FileDescriptor.path) := by
  induction descriptors using List.reverseRecOn with
  | nil => exact NameIndex.Positions.empty _
  | append_singleton descriptors file ih =>
      have positions := ih.insertNew file.path
      rw [List.length_map, ← listing_files_length] at positions
      rw [listing_append_singleton, List.map_append]
      exact positions

/-- A path leads to the first file that has it. -/
theorem fileId?_listing (descriptors : List FileDescriptor) (path : Text) :
    (listing descriptors).fileId? path =
      ((descriptors.map FileDescriptor.path).findIdx? fun known => known = path).map .mk :=
  listing_fileIndex descriptors path

/-- A full name leads to the first message that is declared with it. -/
theorem messageId?_listing (descriptors : List FileDescriptor) (fullName : Text) :
    (listing descriptors).messageId? fullName =
      ((descriptors.flatMap FileDescriptor.fullNames).findIdx? fun known =>
        known = fullName).map .mk := by
  rw [← listing_fullNames]
  exact listing_indexed descriptors fullName

end Registry
end GrpcBindings

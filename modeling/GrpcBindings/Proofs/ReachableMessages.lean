import Mathlib.Data.List.Pairwise
import Mathlib.Logic.Relation
import GrpcBindings.Proofs.Locality
import GrpcBindings.Proofs.Text.Utf8

/-!
Which messages are reachable. They are those that the methods of a file take or give, each once, in
the order of the octets of their full names. So neither the order of services and methods has an
influence on them nor a method that comes again, whether this is changed in a file of a schema or in
the descriptors that it is made from.
-/

namespace GrpcBindings

/-- A step between groups: the groups come in another order, or the members of one of them do, or
one of them has one of its members once more. What else a group has may change with its members. -/
inductive Rearranges {α β : Type} (members : α → List β) : List α → List α → Prop where
  | groups {xs ys : List α} (same : ys.Perm xs) : Rearranges members xs ys
  | members (before after : List α) {x y : α} (same : (members y).Perm (members x)) :
      Rearranges members (before ++ x :: after) (before ++ y :: after)
  | repeated (before after : List α) {x y : α} {member : β} (known : member ∈ members x)
      (same : (members y).Perm (member :: members x)) :
      Rearranges members (before ++ x :: after) (before ++ y :: after)

section

variable {α β : Type} {members : α → List β} {xs ys : List α}

theorem Rearranges.mem_flatMap_iff (step : Rearranges members xs ys) (member : β) :
    member ∈ ys.flatMap members ↔ member ∈ xs.flatMap members := by
  cases step with
  | groups same => exact (same.flatMap_right members).mem_iff
  | members before after same =>
      simp only [List.flatMap_append, List.flatMap_cons, List.mem_append, same.mem_iff]
  | @repeated before after x y again known same =>
      have inGroup : member ∈ members y ↔ member ∈ members x := by
        rw [same.mem_iff, List.mem_cons]
        exact or_iff_right_of_imp fun itself => itself ▸ known
      simp only [List.flatMap_append, List.flatMap_cons, List.mem_append, inGroup]

/-- However often groups are rearranged, they have the same members in all. -/
theorem mem_flatMap_of_rearranged (steps : Relation.EqvGen (Rearranges members) xs ys)
    (member : β) : member ∈ ys.flatMap members ↔ member ∈ xs.flatMap members := by
  induction steps with
  | rel _ _ step => exact step.mem_flatMap_iff member
  | refl _ => rfl
  | symm _ _ _ ih => exact ih.symm
  | trans _ _ _ _ _ first second => exact second.trans first

end

/-- Descriptors whose services are rearranged. Their locations may be others too. -/
structure FileDescriptor.Rearranged (file other : FileDescriptor) : Prop where
  path : other.path = file.path
  package : other.packageName = file.packageName
  dependencies : other.dependencies = file.dependencies
  messages : other.messages = file.messages
  services : Relation.EqvGen (Rearranges ServiceDescriptor.methods) file.services other.services

namespace FileDescriptor.Rearranged

variable {file other : FileDescriptor}

theorem fullNames (rearranged : file.Rearranged other) : other.fullNames = file.fullNames := by
  rw [fullNames_eq, fullNames_eq, rearranged.package, rearranged.messages]

theorem mem_typeNames (rearranged : file.Rearranged other) (typeName : Text) :
    typeName ∈ other.typeNames ↔ typeName ∈ file.typeNames := by
  simp only [typeNames, ← List.flatMap_assoc, List.mem_flatMap (b := typeName),
    mem_flatMap_of_rearranged rearranged.services]

end FileDescriptor.Rearranged

theorem FileDescriptor.map_fullNames_of_rearranged {descriptors others : List FileDescriptor}
    (rearranged : List.Forall₂ Rearranged descriptors others) :
    descriptors.map fullNames = others.map fullNames :=
  map_eq_map_of_forall₂ rearranged fun _ _ same => same.fullNames.symm

/-- What is related to the elements of a list stands at their positions. -/
theorem getElem?_of_forall₂ {α β : Type} {R : α → β → Prop} {xs : List α} {ys : List β}
    (related : List.Forall₂ R xs ys) {position : Nat} {x : α} (found : xs[position]? = some x) :
    ∃ y, ys[position]? = some y ∧ R x y := by
  induction related generalizing position with
  | nil => cases found
  | cons first rest ih =>
      cases position with
      | zero =>
          cases found
          exact ⟨_, rfl, first⟩
      | succ position => exact ih found

/-- Rearranged services name the same types, so what they name is declared as before. -/
theorem Consistent.of_rearranged {descriptors others : List FileDescriptor}
    (consistent : Consistent descriptors)
    (rearranged : List.Forall₂ FileDescriptor.Rearranged descriptors others) :
    Consistent others := by
  have paths : descriptors.map FileDescriptor.path = others.map FileDescriptor.path :=
    map_eq_map_of_forall₂ rearranged fun _ _ same => same.path.symm
  have names := FileDescriptor.map_fullNames_of_rearranged rearranged
  have origin (other : FileDescriptor) (member : other ∈ others) :
      ∃ file ∈ descriptors, file.Rearranged other := by
    obtain ⟨position, found⟩ := List.mem_iff_getElem?.mp member
    obtain ⟨file, entry, same⟩ := getElem?_of_forall₂ rearranged.flip found
    exact ⟨file, List.mem_of_getElem? entry, same⟩
  constructor
  · rw [← paths]
    exact consistent.pathsDistinct
  · rw [List.flatMap_def, ← names, ← List.flatMap_def]
    exact consistent.fullNamesDistinct
  · intro other member dependency mentioned
    obtain ⟨file, fileMember, same⟩ := origin other member
    rw [same.dependencies] at mentioned
    rw [← List.mem_map, ← paths, List.mem_map]
    exact consistent.dependenciesDeclared file fileMember dependency mentioned
  · intro other member service serviceMember method methodMember typeName named
    obtain ⟨file, fileMember, same⟩ := origin other member
    have mentioned : typeName ∈ other.typeNames :=
      List.mem_flatMap.mpr
        ⟨service, serviceMember, List.mem_flatMap.mpr ⟨method, methodMember, named⟩⟩
    rw [same.mem_typeNames] at mentioned
    obtain ⟨service, serviceMember, mentioned⟩ := List.mem_flatMap.mp mentioned
    obtain ⟨method, methodMember, named⟩ := List.mem_flatMap.mp mentioned
    rw [List.flatMap_def, ← names, ← List.flatMap_def]
    exact consistent.typesDeclared file fileMember service serviceMember method methodMember
      typeName named

namespace Registry

theorem messages_of_rearranged {descriptors others : List FileDescriptor}
    (rearranged : List.Forall₂ FileDescriptor.Rearranged descriptors others) :
    (listing others).messages = (listing descriptors).messages := by
  have names := FileDescriptor.map_fullNames_of_rearranged rearranged
  have messages (files : List FileDescriptor) : (listing files).messages =
      (files.map FileDescriptor.fullNames).zipIdx.flatMap fun (fullNames, position) =>
        ownedBy ⟨position⟩ fullNames := by
    rw [listing_messages, List.zipIdx_map, List.flatMap_map]
    rfl
  rw [messages, messages, names]

/-- A file of a schema exchanges the messages that its descriptor names. -/
theorem exchangedMessages_fileOf (registry : Registry) (file : RegisteredFile) :
    Schema.exchangedMessages (registry.fileOf file) =
      file.descriptor.typeNames.map registry.typeId := by
  let types (method : MethodDescriptor) : List MessageId :=
    [registry.typeId (method.input.getD []), registry.typeId (method.output.getD [])]
  have methods (service : ServiceDescriptor) :
      (service.methods.zipIdx.flatMap fun entry => types entry.1) = service.methods.flatMap types :=
    flatMap_zipIdx service.methods types
  simp only [Schema.exchangedMessages, fileOf, serviceOf, methodOf, FileDescriptor.typeNames,
    List.flatMap_map, List.map_flatMap, List.flatMap_assoc, List.map_cons, List.map_nil]
  exact (List.flatMap_congr fun entry _ => methods entry.1).trans
    (flatMap_zipIdx file.descriptor.services fun service => service.methods.flatMap types)

end Registry

namespace Schema

open Registry

variable {descriptors : List FileDescriptor} {schema : Schema}

/-- Files that exchange the same messages reach the same, in the same order. -/
theorem reachableMessages_congr (accepted : ofDescriptors descriptors = .ok schema)
    {file other : SchemaFile}
    (known : ∀ id ∈ exchangedMessages file, id.index < schema.messages.length)
    (same : ∀ id, id ∈ exchangedMessages other ↔ id ∈ exchangedMessages file) :
    schema.reachableMessages other = schema.reachableMessages file := by
  have otherKnown : ∀ id ∈ exchangedMessages other, id.index < schema.messages.length :=
    fun id member => known id ((same id).mp member)
  have members (id : MessageId) :
      id ∈ schema.reachableMessages other ↔ id ∈ schema.reachableMessages file := by
    rw [mem_reachableMessages accepted otherKnown, mem_reachableMessages accepted known, same]
  have ordered (file : SchemaFile) :=
    List.pairwise_map.mp (schema.fullNames_reachableMessages file)
  have permuted := (List.perm_ext_iff_of_nodup (schema.reachableMessages_nodup other)
    (schema.reachableMessages_nodup file)).mpr members
  refine permuted.eq_of_pairwise ?_ (ordered other) (ordered file)
  intro id next _ _ before after
  exact absurd after (List.lt_asymm before)

theorem reachableMessages_of_messages_eq {first second : Schema}
    (same : first.messages = second.messages) (file : SchemaFile) :
    first.reachableMessages file = second.reachableMessages file := by
  simp only [reachableMessages, message, same]

theorem exchangedMessages_of_rearranged {descriptors others : List FileDescriptor}
    (rearranged : List.Forall₂ FileDescriptor.Rearranged descriptors others) {position : Nat}
    (known : position < descriptors.length) (id : MessageId) :
    id ∈ exchangedMessages ((listing others).schemaOf.file ⟨position⟩) ↔
      id ∈ exchangedMessages ((listing descriptors).schemaOf.file ⟨position⟩) := by
  have found := List.getElem?_eq_getElem known
  obtain ⟨other, otherFound, same⟩ := getElem?_of_forall₂ rearranged found
  obtain ⟨_, _, file⟩ := schemaOf_file found
  obtain ⟨_, _, otherFile⟩ := schemaOf_file otherFound
  have types : (listing others).typeId = (listing descriptors).typeId := by
    have fullNames : others.flatMap FileDescriptor.fullNames =
        descriptors.flatMap FileDescriptor.fullNames := by
      rw [← listing_fullNames, messages_of_rearranged rearranged, listing_fullNames]
    funext typeName
    rw [typeId, typeId, messageId?_listing, messageId?_listing, fullNames]
  simp only [file, otherFile, exchangedMessages_fileOf, types, List.mem_map, same.mem_typeNames]

/-- The reachable messages of a file are those of its methods, ascending by the octets of their full
names. How the methods are arranged makes no difference. -/
structure ReachesInOrder (schema : Schema) (file : SchemaFile) : Prop where
  ascending : (schema.reachableMessages file).Pairwise fun id next =>
    (schema.message id).fullName.utf8 < (schema.message next).fullName.utf8
  members : ∀ id, id ∈ schema.reachableMessages file ↔
    ∃ service ∈ file.services, ∃ method ∈ service.methods,
      id = method.input ∨ id = method.output
  rearranged : ∀ services, Relation.EqvGen (Rearranges Service.methods) file.services services →
    schema.reachableMessages { file with services } = schema.reachableMessages file

theorem reachesInOrder_of_accepted (accepted : ofDescriptors descriptors = .ok schema)
    {file : FileId} (known : file.index < schema.files.length) :
    schema.ReachesInOrder (schema.file file) := by
  constructor
  · apply (List.pairwise_map.mp (schema.fullNames_reachableMessages (schema.file file))).imp
    exact fun before => Text.utf8_lt_utf8 before
  · intro id
    rw [reachable_iff_exchanged accepted known, mem_exchangedMessages]
  · intro services steps
    apply reachableMessages_congr accepted fun _ => exchanged_known accepted known
    intro id
    simp only [exchangedMessages, List.mem_flatMap (b := id), mem_flatMap_of_rearranged steps]

/-- In every file of an accepted schema, the reachable messages are those of the methods, once each
and in the order of their names. Descriptors with rearranged services are accepted too, with the
same messages, and reach the same of them. -/
theorem reachableMessages_in_order (accepted : ofDescriptors descriptors = .ok schema) :
    (∀ file : FileId, file.index < schema.files.length →
      schema.ReachesInOrder (schema.file file)) ∧
    ∀ others, List.Forall₂ FileDescriptor.Rearranged descriptors others →
      ∃ other, ofDescriptors others = .ok other ∧ other.messages = schema.messages ∧
        ∀ file : FileId, file.index < schema.files.length →
          other.reachableMessages (other.file file) =
            schema.reachableMessages (schema.file file) := by
  refine ⟨fun file known => reachesInOrder_of_accepted accepted known, ?_⟩
  intro others rearranged
  have consistent := (consistent_of_ofDescriptors accepted).of_rearranged rearranged
  obtain rfl := schemaOf_of_accepted accepted
  have sameTable : (listing others).schemaOf.messages = (listing descriptors).schemaOf.messages :=
    messages_of_rearranged rearranged
  refine ⟨_, ofDescriptors_of_consistent consistent, sameTable, ?_⟩
  intro file known
  refine (reachableMessages_of_messages_eq sameTable _).trans ?_
  apply reachableMessages_congr accepted fun _ => exchanged_known accepted known
  rw [files_length_of_accepted accepted] at known
  exact exchangedMessages_of_rearranged rearranged known

/-- A method that bakes one thing from another. -/
def baking (name input output : Text) : MethodDescriptor :=
  {
    name := some name, input := some input, output := some output
    clientStreaming := none, serverStreaming := none
  }

/-- A file with these services. Its last message has a name outside of ASCII. -/
def bakery (services : List ServiceDescriptor) : FileDescriptor :=
  {
    name := some "bakery.proto", package := some "bakery", dependencies := []
    messages := [.mk (some "Scone") [], .mk (some "Éclair") [], .mk (some "Bun") []]
    services, locations := none
  }

def oven : ServiceDescriptor :=
  { name := some "Oven", methods := [baking "Fill" ".bakery.Éclair" ".bakery.Scone"] }

def counter : ServiceDescriptor :=
  { name := some "Counter", methods := [baking "Swap" ".bakery.Scone" ".bakery.Bun"] }

/-- The counter with its method twice. -/
def busyCounter : ServiceDescriptor :=
  { counter with methods := counter.methods ++ counter.methods }

theorem rearranged_bakery :
    (bakery [oven, counter]).Rearranged (bakery [busyCounter, oven]) := by
  refine ⟨rfl, rfl, rfl, rfl, .trans _ [counter, oven] _ ?_ ?_⟩
  · exact .rel _ _ (.groups (.swap _ _ _))
  · exact .rel _ _ (.repeated [] [oven] List.mem_cons_self (.refl _))

/-- The letter outside of ASCII comes last. -/
theorem reachableMessages_in_order_bakery :
    ∃ schema other, ofDescriptors [bakery [oven, counter]] = .ok schema ∧
      ofDescriptors [bakery [busyCounter, oven]] = .ok other ∧
      schema.ReachesInOrder (schema.file ⟨0⟩) ∧
      ((schema.reachableMessages (schema.file ⟨0⟩)).map fun id => (schema.message id).fullName) =
        ["bakery.Bun", "bakery.Scone", "bakery.Éclair"] ∧
      other.reachableMessages (other.file ⟨0⟩) = schema.reachableMessages (schema.file ⟨0⟩) := by
  have accepted : ofDescriptors [bakery [oven, counter]] =
      .ok (listing [bakery [oven, counter]]).schemaOf := rfl
  obtain ⟨inOrder, rearranged⟩ := reachableMessages_in_order accepted
  obtain ⟨other, otherAccepted, _, same⟩ := rearranged _ (.cons rearranged_bakery .nil)
  exact ⟨_, other, accepted, otherAccepted, inOrder ⟨0⟩ (by decide), by decide,
    same ⟨0⟩ (by decide)⟩

end Schema
end GrpcBindings

import GrpcBindings.Proofs.ModuleAlias
import GrpcBindings.Proofs.Schema.Representation

/-!
What an object path tells of a message. Behind the alias of its module stand the names of the
messages around it and its own, as they are declared. The alias tells the stem of the file, and what
stands behind it tells the full name, so in a schema where no two files have one stem the object
path belongs to a single message.
-/

namespace GrpcBindings

/-- In a scope that is not empty, each name comes behind a dot. -/
theorem foldl_qualify {scope : Text} (filled : scope ≠ []) (names : List Text) :
    names.foldl qualify scope = Text.join "." (scope :: names) := by
  rw [foldl_qualify_eq, Text.dotted_cons filled]

/-- The names of nested messages one after another, unless the first of them makes no scope. -/
theorem foldl_qualify_package {package name : Text} {rest : List Text}
    (within : package ≠ [] ∨ name ≠ []) :
    (name :: rest).foldl qualify package = qualify package (Text.join "." (name :: rest)) := by
  by_cases empty : package = []
  · have filled := within.resolve_left (not_not_intro empty)
    rw [empty, List.foldl_cons]
    exact foldl_qualify filled rest
  · rw [foldl_qualify empty, Text.join_cons_cons, qualify, if_neg empty]

namespace FileDescriptor

/-- All messages that descriptors declare, in their order: the position of the file, and the names
that lead to the message within it. -/
def messageNestings (descriptors : List FileDescriptor) : List (FileId × List Text) :=
  descriptors.zipIdx.flatMap fun (file, position) =>
    file.nestings.map fun names => (⟨position⟩, names)

end FileDescriptor

/-- No dot is in an alias, so the first dot of an object path divides it. -/
theorem alias_append_inj {path other name otherName : Text}
    (same : moduleAlias path ++ "." ++ name = moduleAlias other ++ "." ++ otherName) :
    SchemaPath.stem path = SchemaPath.stem other ∧ name = otherName := by
  have aliases := congrArg qualifier same
  rw [qualifier_of_alias, qualifier_of_alias] at aliases
  rw [aliases, List.append_cancel_left_eq] at same
  exact ⟨moduleAlias_eq_iff.mp aliases, same⟩

namespace Schema

/-- The object path of a message, in the file that owns it. -/
def objectPathOf (schema : Schema) (id : MessageId) : Except Error Text :=
  objectPath (schema.message id).fullName (schema.ownerOf (schema.message id)).path
    (schema.ownerOf (schema.message id)).package

open Registry FileDescriptor

variable {descriptors : List FileDescriptor} {schema : Schema}

/-- Every message stands where it is declared, under what the names that lead to it make of the
package. -/
theorem messages_eq_map (accepted : ofDescriptors descriptors = .ok schema) :
    schema.messages = (messageNestings descriptors).map fun (owner, names) =>
      ⟨names.foldl qualify (schema.file owner).package, owner⟩ := by
  have messages : schema.messages = (listing descriptors).messages := by
    rw [← schemaOf_of_accepted accepted, schemaOf]
  rw [messages, listing_messages, messageNestings, List.map_flatMap]
  apply List.flatMap_congr
  rintro ⟨file, position⟩ member
  have found : descriptors[position]? = some file := List.mem_zipIdx_iff_getElem?.mp member
  have package := (file_of_accepted accepted found).2.1
  simp only [ownedBy, fullNames, List.map_map, ← package, ← foldl_qualify_eq]
  rfl

theorem message_of_nesting (accepted : ofDescriptors descriptors = .ok schema) {id : MessageId}
    (known : id.index < schema.messages.length) :
    ∃ owner names, (messageNestings descriptors)[id.index]? = some (owner, names) ∧
      schema.message id = ⟨names.foldl qualify (schema.file owner).package, owner⟩ := by
  have entry := getElem?_message known
  rw [messages_eq_map accepted, List.getElem?_map, Option.map_eq_some_iff] at entry
  obtain ⟨⟨owner, names⟩, found, same⟩ := entry
  exact ⟨owner, names, found, same.symm⟩

theorem ne_nil_of_messageNesting {index : Nat} {owner : FileId} {names : List Text}
    (found : (messageNestings descriptors)[index]? = some (owner, names)) : names ≠ [] := by
  obtain ⟨⟨file, _⟩, _, declared⟩ := List.mem_flatMap.mp (List.mem_of_getElem? found)
  obtain ⟨_, nesting, same⟩ := List.mem_map.mp declared
  cases same
  exact MessageDescriptor.ne_nil_of_mem_allNestings file.messages nesting

/-- Among files with distinct stems, a stem tells the file. -/
theorem eq_of_stem_eq
    (distinct : (schema.files.map fun file => SchemaPath.stem file.path).Nodup) {id other : FileId}
    (known : id.index < schema.files.length) (otherKnown : other.index < schema.files.length)
    (same : SchemaPath.stem (schema.file id).path = SchemaPath.stem (schema.file other).path) :
    id = other := by
  cases id
  cases other
  exact congrArg FileId.mk (index_eq_of_nodup_map distinct known otherKnown same)

theorem eq_of_objectPathOf_eq (accepted : ofDescriptors descriptors = .ok schema)
    (distinct : (schema.files.map fun file => SchemaPath.stem file.path).Nodup)
    {id other : MessageId} (known : id.index < schema.messages.length)
    (otherKnown : other.index < schema.messages.length)
    (same : schema.objectPathOf id = schema.objectPathOf other) : id = other := by
  obtain ⟨name, found⟩ := objectPath_of_known accepted known
  obtain ⟨_, fullName, path⟩ := objectPath_eq_ok.mp found
  obtain ⟨_, otherFullName, otherPath⟩ := objectPath_eq_ok.mp (same.symm.trans found)
  obtain ⟨stems, rfl⟩ := alias_append_inj (path.symm.trans otherPath)
  have owners := (inRange_of_accepted accepted).owners
  have owner := eq_of_stem_eq distinct (owners _ (message_mem_of_known known))
    (owners _ (message_mem_of_known otherKnown)) stems
  apply eq_of_fullName_eq accepted known otherKnown
  rw [fullName, otherFullName, ownerOf, ownerOf, owner]

theorem objectPathOf_nested {id : MessageId} {owner : FileId} {names : List Text}
    (found : (messageNestings descriptors)[id.index]? = some (owner, names))
    (declared : schema.message id = ⟨names.foldl qualify (schema.file owner).package, owner⟩)
    (within : (schema.file owner).package ≠ [] ∨ names.head? ≠ some []) :
    schema.objectPathOf id =
      .ok (moduleAlias (schema.file owner).path ++ "." ++ Text.join "." names) := by
  obtain ⟨outermost, inner, rfl⟩ := List.exists_cons_of_ne_nil (ne_nil_of_messageNesting found)
  have filled : (schema.file owner).package ≠ [] ∨ outermost ≠ [] :=
    within.imp_right fun noScope empty => noScope (congrArg some empty)
  rw [objectPathOf, declared, ownerOf]
  exact objectPath_eq_ok.mpr ⟨_, foldl_qualify_package filled, rfl⟩

/-- Every message has an object path. Unless two files have one stem, no other message has the same.
It is the alias of the module and the names that lead to the message, unless neither the package nor
the outermost of them makes a scope. -/
theorem objectPaths_identify (accepted : ofDescriptors descriptors = .ok schema) :
    ((schema.files.map fun file => SchemaPath.stem file.path).Nodup →
      ∀ id other : MessageId, id.index < schema.messages.length →
        other.index < schema.messages.length →
        schema.objectPathOf id = schema.objectPathOf other → id = other) ∧
    ∀ id : MessageId, id.index < schema.messages.length →
      (∃ path, schema.objectPathOf id = .ok path) ∧
      ∃ owner names, (messageNestings descriptors)[id.index]? = some (owner, names) ∧
        schema.message id = ⟨names.foldl qualify (schema.file owner).package, owner⟩ ∧
        ((schema.file owner).package ≠ [] ∨ names.head? ≠ some [] →
          schema.objectPathOf id =
            .ok (moduleAlias (schema.file owner).path ++ "." ++ Text.join "." names)) := by
  constructor
  · intro distinct id other known otherKnown
    exact eq_of_objectPathOf_eq accepted distinct known otherKnown
  · intro id known
    obtain ⟨name, path⟩ := objectPath_of_known accepted known
    obtain ⟨owner, names, found, declared⟩ := message_of_nesting accepted known
    exact ⟨⟨_, path⟩, owner, names, found, declared, objectPathOf_nested found declared⟩

/-- The package of the first file is a prefix of that of the second, and both messages in the first
file have its name. The path of the third file is that of the second with a dot for the slash. -/
def bazaar : List FileDescriptor :=
  [
    {
      name := some "shop.proto", package := some "shop", dependencies := []
      messages := [.mk (some "shop") [.mk (some "shop") []]]
      services := [], locations := none
    },
    {
      name := some "shop/item.proto", package := some "shop.item", dependencies := []
      messages := [.mk (some "Item") [.mk (some "Part") [.mk (some "item") []]]]
      services := [], locations := none
    },
    {
      name := some "shop.item.proto", package := none, dependencies := []
      messages := [.mk (some "Item") [.mk (some "Part") []]]
      services := [], locations := none
    }
  ]

theorem objectPaths_identify_bazaar :
    ∃ schema, ofDescriptors bazaar = .ok schema ∧
      (schema.files.map fun file => SchemaPath.stem file.path).Nodup ∧
      (∀ id other : MessageId, id.index < schema.messages.length →
        other.index < schema.messages.length →
        schema.objectPathOf id = schema.objectPathOf other → id = other) ∧
      4 < schema.messages.length ∧
      schema.objectPathOf ⟨4⟩ = .ok "shop$sitem_pb.Item.Part.item" := by
  have accepted : ofDescriptors bazaar = .ok (listing bazaar).schemaOf := rfl
  have distinct : ((listing bazaar).schemaOf.files.map fun file =>
      SchemaPath.stem file.path).Nodup := by
    decide
  have known : 4 < (listing bazaar).schemaOf.messages.length := by decide
  obtain ⟨identified, nested⟩ := objectPaths_identify accepted
  obtain ⟨_, owner, names, found, _, path⟩ := nested ⟨4⟩ known
  have declared : (messageNestings bazaar)[4]? =
      some (⟨1⟩, (["Item", "Part", "item"] : List Text)) := rfl
  cases found.symm.trans declared
  exact ⟨_, accepted, distinct, identified distinct, known, path (.inl (by decide))⟩

end Schema
end GrpcBindings

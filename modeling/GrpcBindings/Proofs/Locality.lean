import GrpcBindings.Proofs.Correspondence
import GrpcBindings.Proofs.Generation

/-!
What the module of a file depends on. Apart from its own descriptor it depends on the paths and the
packages of the files that declare the types of its methods, and on nothing else in the list of
descriptors: neither on other declarations nor on the order.
-/

namespace GrpcBindings

/-- The types that the methods of a file name. -/
def FileDescriptor.typeNames (file : FileDescriptor) : List Text :=
  file.services.flatMap fun service =>
    service.methods.flatMap fun method => [method.input.getD [], method.output.getD []]

/-- A full name is declared in both lists, in files with the same path and the same package. -/
def DeclaredAlike (descriptors others : List FileDescriptor) (fullName : Text) : Prop :=
  ∃ file ∈ descriptors, ∃ other ∈ others, fullName ∈ file.fullNames ∧ fullName ∈ other.fullNames ∧
    file.path = other.path ∧ file.packageName = other.packageName

instance (descriptors others : List FileDescriptor) (fullName : Text) :
    Decidable (DeclaredAlike descriptors others fullName) :=
  inferInstanceAs (Decidable (∃ file ∈ descriptors, _))

namespace Schema

open Registry

variable {descriptors others : List FileDescriptor} {schema other : Schema}

theorem sameMessage_of_declaredAlike (accepted : ofDescriptors descriptors = .ok schema)
    (otherAccepted : ofDescriptors others = .ok other) {fullName : Text}
    (alike : DeclaredAlike descriptors others fullName) {id otherId : MessageId}
    (named : schema.fullName? id = some fullName)
    (otherNamed : other.fullName? otherId = some fullName) :
    SameMessage schema other id otherId := by
  obtain ⟨file, member, otherFile, otherMember, declared, otherDeclared, path, package⟩ := alike
  obtain ⟨ownPath, ownPackage⟩ := ownerOf_of_declared accepted member declared named
  obtain ⟨otherPath, otherPackage⟩ :=
    ownerOf_of_declared otherAccepted otherMember otherDeclared otherNamed
  exact
    {
      fullName := (message_of_fullName? named).2.trans (message_of_fullName? otherNamed).2.symm
      path := ownPath.trans (path.trans otherPath.symm)
      package := ownPackage.trans (package.trans otherPackage.symm)
    }

theorem sameMessage_of_typeName (accepted : ofDescriptors descriptors = .ok schema)
    (otherAccepted : ofDescriptors others = .ok other) {typeName : Text}
    (alike : DeclaredAlike descriptors others (dropLeadingDot typeName)) :
    SameMessage schema other ((listing descriptors).typeId typeName)
      ((listing others).typeId typeName) := by
  have ⟨file, member, otherFile, otherMember, declared, otherDeclared, _⟩ := alike
  have named := typeId_listing (List.mem_flatMap.mpr ⟨file, member, declared⟩)
  have otherNamed := typeId_listing (List.mem_flatMap.mpr ⟨otherFile, otherMember, otherDeclared⟩)
  rw [schemaOf_of_accepted accepted] at named
  rw [schemaOf_of_accepted otherAccepted] at otherNamed
  exact sameMessage_of_declaredAlike accepted otherAccepted alike named otherNamed

/-- One descriptor in two lists becomes files that differ only in positions. -/
theorem sameFile_of_declaredAlike (accepted : ofDescriptors descriptors = .ok schema)
    (otherAccepted : ofDescriptors others = .ok other) {file : FileDescriptor}
    {position otherPosition : Nat} (found : descriptors[position]? = some file)
    (otherFound : others[otherPosition]? = some file)
    (alike : ∀ typeName ∈ file.typeNames,
      DeclaredAlike descriptors others (dropLeadingDot typeName)) :
    SameFile schema other (schema.file ⟨position⟩) (other.file ⟨otherPosition⟩) := by
  have dependencies := (file_of_accepted accepted found).2.2.trans
    (file_of_accepted otherAccepted otherFound).2.2.symm
  have type {typeName : Text} (named : typeName ∈ file.typeNames) :=
    sameMessage_of_typeName accepted otherAccepted (alike typeName named)
  obtain ⟨messages, topLevel, same⟩ := schemaOf_file found
  obtain ⟨otherMessages, otherTopLevel, otherSame⟩ := schemaOf_file otherFound
  rw [schemaOf_of_accepted accepted] at same
  rw [schemaOf_of_accepted otherAccepted] at otherSame
  rw [same, otherSame] at dependencies ⊢
  refine ⟨rfl, rfl, ?_, dependencies, ?_⟩
  · exact (isEmpty_eq_of_forall₂ topLevel).trans (isEmpty_eq_of_forall₂ otherTopLevel).symm
  · rw [fileOf, fileOf, List.forall₂_map_left_iff, List.forall₂_map_right_iff, List.forall₂_same]
    rintro ⟨service, servicePosition⟩ serviceEntry
    refine ⟨rfl, ?_⟩
    simp only [serviceOf]
    rw [List.forall₂_map_left_iff, List.forall₂_map_right_iff, List.forall₂_same]
    rintro ⟨method, methodPosition⟩ methodEntry
    have named (typeName : Text)
        (mentioned : typeName ∈ [method.input.getD [], method.output.getD []]) :
        typeName ∈ file.typeNames :=
      List.mem_flatMap.mpr ⟨service, List.fst_mem_of_mem_zipIdx serviceEntry,
        List.mem_flatMap.mpr ⟨method, List.fst_mem_of_mem_zipIdx methodEntry, mentioned⟩⟩
    exact ⟨rfl, type (named _ List.mem_cons_self),
      type (named _ (List.mem_cons_of_mem _ List.mem_cons_self))⟩

theorem generate_of_declaredAlike (accepted : ofDescriptors descriptors = .ok schema)
    (otherAccepted : ofDescriptors others = .ok other) {file : FileDescriptor}
    {position otherPosition : Nat} (found : descriptors[position]? = some file)
    (otherFound : others[otherPosition]? = some file)
    (alike : ∀ typeName ∈ file.typeNames,
      DeclaredAlike descriptors others (dropLeadingDot typeName)) (options : Options) :
    other.generate ⟨otherPosition⟩ options = schema.generate ⟨position⟩ options :=
  (generate_of_sameFile
    (sameFile_of_declaredAlike accepted otherAccepted found otherFound alike) options).symm

/-- In a permutation the same files declare the same names. -/
theorem declaredAlike_of_perm (consistent : Consistent descriptors)
    (same : others.Perm descriptors) {file : FileDescriptor} (member : file ∈ descriptors) :
    ∀ typeName ∈ file.typeNames, DeclaredAlike descriptors others (dropLeadingDot typeName) := by
  intro typeName named
  obtain ⟨service, serviceMember, named⟩ := List.mem_flatMap.mp named
  obtain ⟨method, methodMember, named⟩ := List.mem_flatMap.mp named
  have declared := consistent.typesDeclared file member service serviceMember method methodMember
    typeName named
  obtain ⟨declaring, declaringMember, declared⟩ :=
    List.mem_flatMap.mp (Text.exists_names_iff.mp declared)
  exact ⟨declaring, declaringMember, declaring, same.mem_iff.mpr declaringMember, declared,
    declared, rfl, rfl⟩

/-- Two accepted lists with the descriptor of a file make the same of the file, wherever it stands
in them, if they declare the types that it names alike. So does every permutation of a list. -/
theorem generate_local (accepted : ofDescriptors descriptors = .ok schema)
    (otherAccepted : ofDescriptors others = .ok other) {file : FileDescriptor}
    {position otherPosition : Nat} (found : descriptors[position]? = some file)
    (otherFound : others[otherPosition]? = some file)
    (alike : ∀ typeName ∈ file.typeNames,
      DeclaredAlike descriptors others (dropLeadingDot typeName)) (options : Options) :
    other.generate ⟨otherPosition⟩ options = schema.generate ⟨position⟩ options ∧
      ∀ permuted : List FileDescriptor, permuted.Perm descriptors →
        ∃ rearranged, ofDescriptors permuted = .ok rearranged ∧
          ∀ newPosition, permuted[newPosition]? = some file →
            rearranged.generate ⟨newPosition⟩ options = schema.generate ⟨position⟩ options := by
  refine ⟨generate_of_declaredAlike accepted otherAccepted found otherFound alike options, ?_⟩
  intro permuted same
  have consistent := consistent_of_ofDescriptors accepted
  have rearranged := ofDescriptors_of_consistent (consistent.perm same)
  refine ⟨_, rearranged, ?_⟩
  intro newPosition newFound
  exact generate_of_declaredAlike accepted rearranged found newFound
    (declaredAlike_of_perm consistent same (List.mem_of_getElem? found)) options

/-- A file with a service that takes and gives a message of its own and one nested elsewhere. -/
def sensor : FileDescriptor :=
  {
    name := some "sensor.proto", package := some "probe", dependencies := ["units.proto"]
    messages := [.mk (some "Reading") []]
    services :=
      [
        {
          name := some "Sensor"
          methods :=
            [
              {
                name := some "Read", input := some ".units.Scale.Unit"
                output := some ".probe.Reading", clientStreaming := none
                serverStreaming := some true
              }
            ]
        }
      ]
    locations := none
  }

/-- The file of the units, with its messages. -/
def units (messages : List MessageDescriptor) : FileDescriptor :=
  {
    name := some "units.proto", package := some "units", dependencies := [], messages
    services := [], locations := none
  }

def original : List FileDescriptor :=
  [units [.mk (some "Scale") [.mk (some "Unit") []]], sensor]

/-- Another file comes first, and the units are declared among other messages. -/
def edited : List FileDescriptor :=
  [
    {
      name := some "log.proto", package := none, dependencies := []
      messages := [.mk (some "Line") [.mk (some "Column") []]]
      services := [], locations := none
    },
    units
      [.mk (some "Prefix") [], .mk (some "Scale") [.mk (some "Step") [], .mk (some "Unit") []]],
    sensor
  ]

theorem generate_local_of_edited :
    ∃ schema other, ofDescriptors original = .ok schema ∧ ofDescriptors edited = .ok other ∧
      original[1]? = some sensor ∧ edited[2]? = some sensor ∧
      (∀ typeName ∈ sensor.typeNames,
        DeclaredAlike original edited (dropLeadingDot typeName)) ∧
      schema.messageId? ".units.Scale.Unit" ≠ other.messageId? ".units.Scale.Unit" ∧
      other.generate ⟨2⟩ {} = schema.generate ⟨1⟩ {} ∧
      ∀ permuted : List FileDescriptor, permuted.Perm original →
        ∃ rearranged, ofDescriptors permuted = .ok rearranged ∧
          ∀ newPosition, permuted[newPosition]? = some sensor →
            rearranged.generate ⟨newPosition⟩ {} = schema.generate ⟨1⟩ {} := by
  have accepted : ofDescriptors original = .ok (listing original).schemaOf := rfl
  have otherAccepted : ofDescriptors edited = .ok (listing edited).schemaOf := rfl
  have alike : ∀ typeName ∈ sensor.typeNames,
      DeclaredAlike original edited (dropLeadingDot typeName) := by
    decide
  exact ⟨_, _, accepted, otherAccepted, rfl, rfl, alike, by decide,
    generate_local accepted otherAccepted rfl rfl alike {}⟩

end Schema
end GrpcBindings

import Mathlib.Logic.Relation
import GrpcBindings.Proofs.Schema.Representation
import GrpcBindings.Proofs.Schema.Uncommented

/-!
Where the comments of a schema come from. A file, each of its services and each of their methods has
a path, and shows what the first location of that path records, if it records anything. No other
location has an influence on the schema, so that locations may come and go as long as every element
keeps its first one.
-/

namespace GrpcBindings
namespace SourceComments

/-- The first location of a path, with other paths before it and anything behind it. -/
structure FirstAt (locations : List Location) (path : List Int) (location : Location) : Prop where
  split : ∃ before after, locations = before ++ location :: after ∧
    ∀ earlier ∈ before, earlier.path ≠ path
  path : location.path = path

/-- What locations record at a path. -/
inductive RecordedAt (locations : List Location) (path : List Int) :
    Option SourceComments → Prop where
  | unlocated (absent : ∀ location ∈ locations, location.path ≠ path) :
      RecordedAt locations path none
  /-- The first location has no comment, whatever later ones have. -/
  | empty {location : Location} (first : FirstAt locations path location)
      (bare : location.leading = none ∧ location.trailing = none ∧ location.detached = []) :
      RecordedAt locations path none
  | shown {location : Location} (first : FirstAt locations path location)
      (filled : ¬ (location.leading = none ∧ location.trailing = none ∧ location.detached = [])) :
      RecordedAt locations path (some
        { leading := location.leading, trailing := location.trailing,
          detached := location.detached })

theorem isEmpty_ofLocation (location : Location) :
    (ofLocation location).isEmpty = true ↔
      location.leading = none ∧ location.trailing = none ∧ location.detached = [] := by
  simp [isEmpty, ofLocation, and_assoc]

theorem firstAt_of_find? {locations : List Location} {path : List Int} {location : Location}
    (found : (locations.find? fun location => location.path = path) = some location) :
    FirstAt locations path location := by
  obtain ⟨same, before, after, split, others⟩ := List.find?_eq_some_iff_append.mp found
  refine ⟨⟨before, after, split, ?_⟩, of_decide_eq_true same⟩
  intro earlier member
  simpa using others earlier member

/-- What is found at a path is what the locations record there. -/
theorem recordedAt_find? (locations : List Location) (path : List Int) :
    RecordedAt locations path (find? locations path) := by
  unfold find?
  split
  · rename_i missing
    apply RecordedAt.unlocated
    simpa using missing
  · rename_i location found
    have first := firstAt_of_find? found
    simp only
    split
    · rename_i bare
      exact .empty first ((isEmpty_ofLocation location).mp bare)
    · rename_i filled
      exact .shown first ((isEmpty_ofLocation location).not.mp filled)

/-- A step between locations that no path of a list tells apart: one more location, with none of the
paths, or behind another with its own path. A location that changes is taken away and put back. -/
inductive Unread (paths : List (List Int)) : List Location → List Location → Prop where
  | insert (before after : List Location) (location : Location)
      (unread : location.path ∉ paths ∨ ∃ earlier ∈ before, earlier.path = location.path) :
      Unread paths (before ++ after) (before ++ location :: after)

theorem find?_of_unread {paths : List (List Int)} {locations others : List Location}
    (step : Unread paths locations others) {path : List Int} (member : path ∈ paths) :
    find? locations path = find? others path := by
  obtain ⟨before, after, location, unread⟩ := step
  have same : (before ++ after).find? (fun location => location.path = path) =
      (before ++ location :: after).find? fun location => location.path = path := by
    rw [List.find?_append, List.find?_append, List.find?_cons]
    by_cases here : location.path = path
    · obtain ⟨earlier, earlierMember, earlierPath⟩ :=
        unread.resolve_left (not_not_intro (here ▸ member))
      have found : (before.find? fun location => location.path = path).isSome = true := by
        rw [List.find?_isSome]
        exact ⟨earlier, earlierMember, decide_eq_true (earlierPath.trans here)⟩
      rw [Option.or_of_isSome found, Option.or_of_isSome found]
    · rw [decide_eq_false here]
  rw [find?, find?, same]

/-- Locations that can be made of each other by such steps, forwards and backwards, have the same at
the paths of the list. -/
theorem find?_of_eqvGen {paths : List (List Int)} {locations others : List Location}
    (steps : Relation.EqvGen (Unread paths) locations others) {path : List Int}
    (member : path ∈ paths) : find? locations path = find? others path := by
  induction steps with
  | rel _ _ step => exact find?_of_unread step member
  | refl _ => rfl
  | symm _ _ _ ih => exact ih.symm
  | trans _ _ _ _ _ first second => exact first.trans second

end SourceComments

open SourceComments

namespace FileDescriptor

/-- So few services and methods, fewer than `2 ^ 31`, that a path has their positions. -/
structure HasPositions (file : FileDescriptor) : Prop where
  services : file.services.length < 0x80000000
  methods : ∀ service ∈ file.services, service.methods.length < 0x80000000

/-- The paths of the elements that may have comments: of the file, of each service by its position,
and of each method by its position in the service. -/
def elementPaths (file : FileDescriptor) : List (List Int) :=
  [12] :: file.services.zipIdx.flatMap fun (service, i) =>
    [6, (i : Int)] :: service.methods.zipIdx.map fun (_, j) => [6, (i : Int), 2, (j : Int)]

/-- Descriptors that differ in nothing but locations that no element of the file reads. -/
structure Recommented (file other : FileDescriptor) : Prop where
  uncommented : other.uncommented = file.uncommented
  locations : Relation.EqvGen (Unread file.elementPaths) (file.locations.getD [])
    (other.locations.getD [])

end FileDescriptor

/-- The comments of a file, of its services and of their methods are those that the locations of the
descriptor record at their paths. -/
structure SchemaFile.CommentsRecorded (file : SchemaFile) (locations : List Location) : Prop where
  own : RecordedAt locations [12] file.comments
  services : ∀ (i : Nat) service, file.services[i]? = some service →
    RecordedAt locations [6, (i : Int)] service.comments
  methods : ∀ (i : Nat) service (j : Nat) method, file.services[i]? = some service →
    service.methods[j]? = some method →
    RecordedAt locations [6, (i : Int), 2, (j : Int)] method.comments

namespace FileDescriptor

variable {file : FileDescriptor} {service : ServiceDescriptor} {i : Nat}

theorem servicePath_mem (entry : file.services[i]? = some service) :
    [6, (i : Int)] ∈ file.elementPaths :=
  List.mem_cons_of_mem _ (List.mem_flatMap.mpr
    ⟨(service, i), List.mem_zipIdx_iff_getElem?.mpr entry, List.mem_cons_self⟩)

theorem methodPath_mem (entry : file.services[i]? = some service) {j : Nat}
    (within : j < service.methods.length) :
    [6, (i : Int), 2, (j : Int)] ∈ file.elementPaths := by
  have method : (service.methods[j], j) ∈ service.methods.zipIdx :=
    List.mem_zipIdx_iff_getElem?.mpr (List.getElem?_eq_getElem within)
  exact List.mem_cons_of_mem _ (List.mem_flatMap.mpr
    ⟨(service, i), List.mem_zipIdx_iff_getElem?.mpr entry,
      List.mem_cons_of_mem _ (List.mem_map_of_mem method)⟩)

end FileDescriptor

namespace Registry

theorem pathPosition_of_lt {position : Nat} (small : position < 0x80000000) :
    pathPosition position = position := by
  have size : (UInt32.size : Int) = 4294967296 := rfl
  apply Int.bmod_eq_of_le
  · omega
  · omega

theorem serviceCommentPath_of_lt {i : Nat} (small : i < 0x80000000) :
    serviceCommentPath i = [6, (i : Int)] := by
  rw [serviceCommentPath, pathPosition_of_lt small]

theorem methodCommentPath_of_lt {i j : Nat} (small : i < 0x80000000)
    (methodSmall : j < 0x80000000) : methodCommentPath i j = [6, (i : Int), 2, (j : Int)] := by
  rw [methodCommentPath, serviceCommentPath_of_lt small, pathPosition_of_lt methodSmall]
  rfl

variable {registry : Registry}

theorem exists_serviceOf {file : RegisteredFile} {i : Nat} {service : Service}
    (found : (registry.fileOf file).services[i]? = some service) :
    ∃ declared, file.descriptor.services[i]? = some declared ∧
      registry.serviceOf (file.descriptor.locations.getD []) file.descriptor.packageName declared
        i = service := by
  simpa [fileOf, List.getElem?_map, List.getElem?_zipIdx] using found

theorem exists_methodOf {locations : List Location} {package : Text} {service : ServiceDescriptor}
    {i j : Nat} {method : Method}
    (found : (registry.serviceOf locations package service i).methods[j]? = some method) :
    ∃ declared, service.methods[j]? = some declared ∧
      registry.methodOf locations i declared j = method := by
  simpa [serviceOf, List.getElem?_map, List.getElem?_zipIdx] using found

theorem commentsRecorded_fileOf {file : RegisteredFile} (few : file.descriptor.HasPositions) :
    (registry.fileOf file).CommentsRecorded (file.descriptor.locations.getD []) := by
  refine ⟨recordedAt_find? _ _, ?_, ?_⟩
  · intro i service found
    obtain ⟨declared, entry, rfl⟩ := exists_serviceOf found
    have small := Nat.lt_trans (List.getElem?_eq_some_iff.mp entry).1 few.services
    rw [← serviceCommentPath_of_lt small]
    exact recordedAt_find? _ _
  · intro i service j method found methodFound
    obtain ⟨declared, entry, rfl⟩ := exists_serviceOf found
    obtain ⟨declaredMethod, methodEntry, rfl⟩ := exists_methodOf methodFound
    have small := Nat.lt_trans (List.getElem?_eq_some_iff.mp entry).1 few.services
    have methodSmall := Nat.lt_trans (List.getElem?_eq_some_iff.mp methodEntry).1
      (few.methods declared (List.mem_of_getElem? entry))
    rw [← methodCommentPath_of_lt small methodSmall]
    exact recordedAt_find? _ _

/-- Locations with the same at the paths of a service and its methods make the same of it. -/
theorem serviceOf_congr {locations others : List Location} (package : Text)
    (service : ServiceDescriptor) (i : Nat)
    (own : find? locations (serviceCommentPath i) = find? others (serviceCommentPath i))
    (methods : ∀ j < service.methods.length,
      find? locations (methodCommentPath i j) = find? others (methodCommentPath i j)) :
    registry.serviceOf locations package service i =
      registry.serviceOf others package service i := by
  have each : (service.methods.zipIdx.map fun (method, j) =>
        registry.methodOf locations i method j) =
      service.methods.zipIdx.map fun (method, j) => registry.methodOf others i method j := by
    apply List.map_congr_left
    rintro ⟨method, j⟩ member
    simp only [methodOf, methods j (List.snd_lt_of_mem_zipIdx member)]
  rw [serviceOf, serviceOf, own, each]

/-- Locations with the same at the paths of all elements make the same services of a descriptor. -/
theorem services_congr (registry : Registry) {file : FileDescriptor} (few : file.HasPositions)
    {locations others : List Location}
    (recorded : ∀ path ∈ file.elementPaths, find? locations path = find? others path) :
    (file.services.zipIdx.map fun (service, i) =>
        registry.serviceOf locations file.packageName service i) =
      file.services.zipIdx.map fun (service, i) =>
        registry.serviceOf others file.packageName service i := by
  apply List.map_congr_left
  rintro ⟨service, i⟩ member
  have entry := List.mem_zipIdx_iff_getElem?.mp member
  have small := Nat.lt_trans (List.snd_lt_of_mem_zipIdx member) few.services
  have methodSmall := few.methods service (List.fst_mem_of_mem_zipIdx member)
  apply serviceOf_congr
  · rw [serviceCommentPath_of_lt small]
    exact recorded _ (file.servicePath_mem entry)
  · intro j within
    rw [methodCommentPath_of_lt small (Nat.lt_trans within methodSmall)]
    exact recorded _ (file.methodPath_mem entry within)

/-- Files with the same declarations and the same comments at the paths of their elements become the
same file of a schema. -/
theorem fileOf_congr {file other : RegisteredFile} (few : file.descriptor.HasPositions)
    (declared : other.uncommented = file.uncommented)
    (recorded : ∀ path ∈ file.descriptor.elementPaths,
      find? (file.descriptor.locations.getD []) path =
        find? (other.descriptor.locations.getD []) path) :
    registry.fileOf other = registry.fileOf file := by
  have services := services_congr registry few recorded
  have own := recorded fileCommentPath List.mem_cons_self
  obtain ⟨⟨_, _, _, _, _, locations⟩, _⟩ := file
  obtain ⟨⟨_, _, _, _, _, others⟩, _⟩ := other
  cases declared
  rw [fileOf, fileOf, services, own]
  rfl

variable {descriptors others : List FileDescriptor}

theorem uncommented_listing
    (same : others.map FileDescriptor.uncommented = descriptors.map FileDescriptor.uncommented) :
    (listing others).uncommented = (listing descriptors).uncommented := by
  rw [← listing_uncommented, ← listing_uncommented, same]

/-- Registered files stand where their descriptors do. -/
theorem forall₂_listing {R : FileDescriptor → FileDescriptor → Prop}
    (related : List.Forall₂ R descriptors others)
    (same : others.map FileDescriptor.uncommented = descriptors.map FileDescriptor.uncommented) :
    List.Forall₂ (fun file other : RegisteredFile =>
        R file.descriptor other.descriptor ∧ other.uncommented = file.uncommented)
      (listing descriptors).files (listing others).files := by
  have files : (listing descriptors).files.map RegisteredFile.uncommented =
      (listing others).files.map RegisteredFile.uncommented :=
    congrArg Registry.files (uncommented_listing same).symm
  rw [← List.forall₂_eq_eq_eq, List.forall₂_map_left_iff, List.forall₂_map_right_iff] at files
  rw [← listing_descriptors descriptors, ← listing_descriptors others, List.forall₂_map_left_iff,
    List.forall₂_map_right_iff] at related
  exact files.mp (fun _ _ declared r => ⟨r, declared.symm⟩) related

end Registry

namespace Schema

open Registry FileDescriptor

variable {descriptors others : List FileDescriptor}

theorem map_uncommented_of_recommented
    (recommented : List.Forall₂ Recommented descriptors others) :
    others.map FileDescriptor.uncommented = descriptors.map FileDescriptor.uncommented := by
  symm
  rw [← List.forall₂_eq_eq_eq, List.forall₂_map_left_iff, List.forall₂_map_right_iff]
  exact recommented.imp fun _ _ change => change.uncommented.symm

theorem schemaOf_of_recommented (few : ∀ file ∈ descriptors, file.HasPositions)
    (recommented : List.Forall₂ Recommented descriptors others) :
    (listing others).schemaOf = (listing descriptors).schemaOf := by
  have same := map_uncommented_of_recommented recommented
  have bare := uncommented_listing same
  have table : (listing others).toMessageTable = (listing descriptors).toMessageTable := by
    have declared := congrArg Registry.toMessageTable bare
    exact declared
  have index : (listing others).fileIndex = (listing descriptors).fileIndex := by
    have paths := congrArg Registry.fileIndex bare
    exact paths
  have made : (listing others).fileOf = (listing descriptors).fileOf := by
    funext file
    rw [← uncommented_fileOf, bare, uncommented_fileOf]
  have files : (listing descriptors).files.map (listing descriptors).fileOf =
      (listing others).files.map (listing descriptors).fileOf := by
    rw [← List.forall₂_eq_eq_eq, List.forall₂_map_left_iff, List.forall₂_map_right_iff]
    have related := (List.forall₂_and_left descriptors others).mpr ⟨few, recommented⟩
    refine (forall₂_listing related same).imp ?_
    rintro file other ⟨⟨positions, change⟩, declared⟩
    symm
    exact fileOf_congr positions declared fun path member => find?_of_eqvGen change.locations member
  rw [schemaOf, schemaOf, table, index, made, files]

/-- Locations that no element reads have no influence on what becomes of descriptors. -/
theorem ofDescriptors_of_recommented (few : ∀ file ∈ descriptors, file.HasPositions)
    (recommented : List.Forall₂ Recommented descriptors others) :
    ofDescriptors others = ofDescriptors descriptors := by
  rw [ofDescriptors_eq, ofDescriptors_eq, schemaOf_of_recommented few recommented,
    ← faults_uncommented others, map_uncommented_of_recommented recommented, faults_uncommented]

/-- In an accepted schema every file has the services of its descriptor with their methods, one by
one, and all these elements have the comments of the first locations of their paths. What is added,
removed or changed among all other locations leaves the schema as it is. -/
theorem comments_of_first_locations {schema : Schema}
    (few : ∀ file ∈ descriptors, file.HasPositions)
    (accepted : ofDescriptors descriptors = .ok schema) :
    (∀ position file, descriptors[position]? = some file →
      List.Forall₂ (Service.ResolvedFrom schema file.packageName)
        (schema.file ⟨position⟩).services file.services ∧
      (schema.file ⟨position⟩).CommentsRecorded (file.locations.getD [])) ∧
    ∀ others, List.Forall₂ Recommented descriptors others → ofDescriptors others = .ok schema := by
  constructor
  · intro position file found
    refine ⟨services_resolvedFrom accepted found, ?_⟩
    obtain rfl := schemaOf_of_accepted accepted
    obtain ⟨messages, _, same⟩ := schemaOf_file found
    rw [same]
    exact commentsRecorded_fileOf (few file (List.mem_of_getElem? found))
  · intro others recommented
    rw [ofDescriptors_of_recommented few recommented, accepted]

/-- A file with a service of two methods, and with these locations. -/
def beacon (locations : List Location) : FileDescriptor :=
  {
    name := some "beacon.proto", package := some "sea", dependencies := []
    messages := [.mk (some "Signal") []]
    services :=
      [
        {
          name := some "Beacon"
          methods :=
            [
              {
                name := some "Light", input := some ".sea.Signal", output := some ".sea.Signal"
                clientStreaming := none, serverStreaming := none
              },
              {
                name := some "Dim", input := some ".sea.Signal", output := some ".sea.Signal"
                clientStreaming := none, serverStreaming := none
              }
            ]
        }
      ]
    locations := some locations
  }

/-- The first location of the file has no comment, and a later one has. -/
def beaconLocations : List Location :=
  [
    { path := [12], leading := none, trailing := none, detached := [] },
    { path := [12], leading := some " Too late.\n", trailing := none, detached := [] },
    { path := [6, 0], leading := none, trailing := some " Shines.\n", detached := [] },
    { path := [6, 0, 2, 1], leading := none, trailing := none, detached := [" Apart.\n"] },
    { path := [6, 0, 2, 1, 1], leading := some " Its name.\n", trailing := none, detached := [] }
  ]

/-- The locations without those that no element reads. -/
def beaconFirstLocations : List Location :=
  [
    { path := [12], leading := none, trailing := none, detached := [] },
    { path := [6, 0], leading := none, trailing := some " Shines.\n", detached := [] },
    { path := [6, 0, 2, 1], leading := none, trailing := none, detached := [" Apart.\n"] }
  ]

theorem recommented_beacon :
    (beacon beaconLocations).Recommented (beacon beaconFirstLocations) := by
  refine ⟨rfl, .symm _ _ (.trans _ (beaconFirstLocations ++ beaconLocations.drop 4) _ ?_ ?_)⟩
  · exact .rel _ _ (.insert beaconFirstLocations [] _ (.inl (by decide)))
  · exact .rel _ _ (.insert (beaconLocations.take 1) (beaconLocations.drop 2) _ (.inr (by decide)))

theorem comments_of_first_locations_beacon :
    ∃ schema, ofDescriptors [beacon beaconLocations] = .ok schema ∧
      (∀ file ∈ [beacon beaconLocations], file.HasPositions) ∧
      List.Forall₂ (Service.ResolvedFrom schema "sea") (schema.file ⟨0⟩).services
        (beacon beaconLocations).services ∧
      (schema.file ⟨0⟩).CommentsRecorded beaconLocations ∧ (schema.file ⟨0⟩).comments = none ∧
      ofDescriptors [beacon beaconFirstLocations] = .ok schema := by
  have accepted : ofDescriptors [beacon beaconLocations] =
      .ok (listing [beacon beaconLocations]).schemaOf := rfl
  have few : ∀ file ∈ [beacon beaconLocations], file.HasPositions := by
    rw [List.forall_mem_singleton]
    exact ⟨by decide, by decide⟩
  obtain ⟨recorded, unread⟩ := comments_of_first_locations few accepted
  obtain ⟨services, comments⟩ := recorded 0 _ rfl
  exact ⟨_, accepted, few, services, comments, rfl, unread _ (.cons recommented_beacon .nil)⟩

end Schema
end GrpcBindings

import Mathlib.Data.List.Flatten
import Mathlib.Data.List.Nodup
import GrpcBindings.Proofs.Schema.Declarations

/-!
Registering a list of descriptors. The faults are stated of the descriptors alone: file by file, a
path that an earlier file has, then every full name that was declared before, with the path of the
file that declared it first. The registry is the listing of the descriptors if there is no fault,
and otherwise the first fault is reported.
-/

namespace GrpcBindings
namespace FileDescriptor

/-- The full names that are declared again, given what was declared before them. -/
def nameFaults (earlier : List (Text × Text)) : List (Text × Text) → List Error
  | [] => []
  | (fullName, path) :: rest =>
      ((earlier.find? fun declared => declared.1 = fullName).map fun first =>
          Error.duplicateMessage fullName first.2 path).toList ++
        nameFaults (earlier ++ [(fullName, path)]) rest

/-- What one file repeats of the files before it and of itself. -/
def repetitions (earlier : List FileDescriptor) (file : FileDescriptor) : List Error :=
  (if (earlier.map path).contains file.path then [.duplicateFile file.path] else []) ++
    nameFaults (earlier.flatMap declarations) file.declarations

/-- What files repeat of each other, given those before them. -/
def registrationFaults (earlier : List FileDescriptor) : List FileDescriptor → List Error
  | [] => []
  | file :: rest => file.repetitions earlier ++ registrationFaults (earlier ++ [file]) rest

theorem declarations_fst (file : FileDescriptor) :
    file.declarations.map Prod.fst = file.fullNames := by
  simp [declarations, Function.comp_def]

theorem flatMap_declarations_fst (files : List FileDescriptor) :
    (files.flatMap declarations).map Prod.fst = files.flatMap fullNames := by
  simp only [List.map_flatMap, declarations_fst]

private theorem find?_toList_eq_nil (earlier : List (Text × Text)) (fullName path : Text) :
    ((earlier.find? fun declared => declared.1 = fullName).map fun first =>
        Error.duplicateMessage fullName first.2 path).toList = [] ↔
      fullName ∉ earlier.map Prod.fst := by
  rw [Option.toList_eq_nil_iff, Option.map_eq_none_iff, List.find?_eq_none]
  constructor
  · rintro absent member
    obtain ⟨declared, declaredMember, same⟩ := List.mem_map.mp member
    exact absent declared declaredMember (by simpa using same)
  · intro absent declared declaredMember same
    exact absent (List.mem_map.mpr ⟨declared, declaredMember, by simpa using same⟩)

theorem nameFaults_eq_nil (names earlier : List (Text × Text))
    (distinct : (earlier.map Prod.fst).Nodup) :
    nameFaults earlier names = [] ↔ ((earlier ++ names).map Prod.fst).Nodup := by
  induction names generalizing earlier with
  | nil => simpa [nameFaults] using distinct
  | cons declaration rest ih =>
      obtain ⟨fullName, path⟩ := declaration
      rw [nameFaults, List.append_eq_nil_iff, find?_toList_eq_nil,
        List.append_cons earlier (fullName, path) rest]
      have extended :
          fullName ∉ earlier.map Prod.fst ↔
            ((earlier ++ [(fullName, path)]).map Prod.fst).Nodup := by
        rw [List.map_append, List.nodup_append_comm]
        simp [List.nodup_cons, distinct]
      constructor
      · rintro ⟨fresh, none⟩
        exact (ih _ (extended.mp fresh)).mp none
      · intro all
        have prefixDistinct := all.sublist ((List.sublist_append_left _ rest).map Prod.fst)
        exact ⟨extended.mpr prefixDistinct, (ih _ prefixDistinct).mpr all⟩

theorem registrationFaults_eq_nil (files earlier : List FileDescriptor)
    (distinctPaths : (earlier.map path).Nodup)
    (distinctNames : (earlier.flatMap fullNames).Nodup) :
    registrationFaults earlier files = [] ↔
      ((earlier ++ files).map path).Nodup ∧ ((earlier ++ files).flatMap fullNames).Nodup := by
  induction files generalizing earlier with
  | nil => simpa [registrationFaults] using ⟨distinctPaths, distinctNames⟩
  | cons file rest ih =>
      rw [registrationFaults, repetitions, List.append_eq_nil_iff, List.append_eq_nil_iff,
        List.append_cons earlier file rest,
        nameFaults_eq_nil _ _ (by rw [flatMap_declarations_fst]; exact distinctNames)]
      have paths :
          (if (earlier.map path).contains file.path then [Error.duplicateFile file.path]
              else []) = [] ↔
            ((earlier ++ [file]).map path).Nodup := by
        rw [List.map_append, List.nodup_append_comm]
        simp [List.nodup_cons, distinctPaths]
      have names :
          ((earlier.flatMap declarations ++ file.declarations).map Prod.fst).Nodup ↔
            ((earlier ++ [file]).flatMap fullNames).Nodup := by
        rw [List.map_append, flatMap_declarations_fst, declarations_fst, List.flatMap_append,
          List.flatMap_singleton]
      rw [paths, names]
      constructor
      · rintro ⟨⟨newPaths, newNames⟩, none⟩
        exact (ih _ newPaths newNames).mp none
      · rintro ⟨allPaths, allNames⟩
        have prefixOf := List.sublist_append_left (earlier ++ [file]) rest
        have newPaths := allPaths.sublist (prefixOf.map path)
        have newNames := allNames.sublist (prefixOf.flatMap fullNames)
        exact ⟨⟨newPaths, newNames⟩, (ih _ newPaths newNames).mpr ⟨allPaths, allNames⟩⟩

end FileDescriptor

namespace Registry

open FileDescriptor

/-- A clash as it is reported, with the paths of both files. -/
def clashFault (pathOf : FileId → Text) (second : Text) (clash : Clash) : Error :=
  .duplicateMessage clash.fullName (pathOf clash.owner) second

theorem clashes_eq_nameFaults (pathOf : FileId → Text) (owner : FileId) (fullNames : List Text)
    (messages : List MessageType) :
    (clashes owner messages fullNames).map (clashFault pathOf (pathOf owner)) =
      nameFaults (messages.map fun message => (message.fullName, pathOf message.owner))
        (fullNames.map fun fullName => (fullName, pathOf owner)) := by
  induction fullNames generalizing messages with
  | nil => rfl
  | cons fullName rest ih =>
      rw [clashes, List.map_append, ih, List.map_append]
      simp only [List.map_cons, List.map_nil, nameFaults]
      congr 1
      rw [repeated, List.find?_map]
      simp only [Function.comp_def]
      cases messages.find? fun message => message.fullName = fullName <;> rfl

theorem pathOf_listing (files : List FileDescriptor) (next : FileDescriptor) (id : FileId) :
    (listing files).pathOf next id = ((files ++ [next]).getD id.index next).path := by
  rw [pathOf, listing_descriptors]

theorem pathOf_next (files : List FileDescriptor) (next : FileDescriptor) :
    (listing files).pathOf next ⟨files.length⟩ = next.path := by
  simp [pathOf_listing]

/-- The names in a registry, each with the path of its owner, are those that the files declare. -/
theorem listing_declarations (files : List FileDescriptor) (next : FileDescriptor) :
    (listing files).messages.map (fun message =>
        (message.fullName, (listing files).pathOf next message.owner)) =
      files.flatMap declarations := by
  have owned (entry : FileDescriptor × Nat) (member : entry ∈ files.zipIdx) :
      (ownedBy ⟨entry.2⟩ entry.1.fullNames).map (fun message =>
          (message.fullName, (listing files).pathOf next message.owner)) =
        entry.1.declarations := by
    obtain ⟨file, position⟩ := entry
    have found : files[position]? = some file := List.mem_zipIdx_iff_getElem?.mp member
    have within : position < files.length := (List.getElem?_eq_some_iff.mp found).1
    have path : (listing files).pathOf next ⟨position⟩ = file.path := by
      rw [pathOf_listing, List.getD_eq_getElem?_getD, List.getElem?_append_left within, found]
      rfl
    simp only [ownedBy, List.map_map, Function.comp_def, path, declarations]
  rw [listing_messages, List.map_flatMap, List.flatMap_congr owned,
    ← List.flatMap_map (fun file : FileDescriptor × Nat => file.1), List.zipIdx_map_fst]

theorem add_listing (files : List FileDescriptor) (file : FileDescriptor) :
    (listing files).add file =
      firstFault (file.repetitions files) (listing (files ++ [file])) := by
  have known : ((listing files).fileIndex.find? file.path).isSome =
      (files.map FileDescriptor.path).contains file.path :=
    (listing_fileIndex files).isSome_find? file.path
  have names := clashes_eq_nameFaults ((listing files).pathOf file) ⟨files.length⟩
    file.fullNames (listing files).messages
  rw [pathOf_next, listing_declarations] at names
  rw [listing_append_singleton, repetitions, extend, declarations, ← names, ← known, add,
    NameIndex.insertNew, NameIndex.insert, listing_files_length, fullNames_eq]
  cases (listing files).fileIndex.find? file.path with
  | some _ => rfl
  | none =>
      simp only [MessageTable.declareMessages_eq _ _ _ _ (listing_indexed files)]
      cases clashes _ (listing files).messages _ with
      | cons _ _ => rfl
      | nil => rfl

theorem foldlM_add_listing (files rest : List FileDescriptor) :
    rest.foldlM add (listing files) =
      firstFault (registrationFaults files rest) (listing (files ++ rest)) := by
  induction rest generalizing files with
  | nil => simp [registrationFaults, firstFault, pure, Except.pure]
  | cons file rest ih =>
      rw [List.foldlM_cons, add_listing, List.append_cons files file rest]
      exact firstFault_bind _ _ (ih (files ++ [file]))

theorem ofDescriptors_eq (descriptors : List FileDescriptor) :
    ofDescriptors descriptors =
      firstFault (registrationFaults [] descriptors) (listing descriptors) :=
  foldlM_add_listing [] descriptors

end Registry
end GrpcBindings

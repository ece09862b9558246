import Mathlib.Data.List.Nodup
import GrpcBindings.NameIndex

/-!
An index beside the names that it was made from. It leads to the position at which a name stands
first. A name that is put behind the others keeps that so, unless the index leads somewhere from it
already.
-/

namespace GrpcBindings
namespace Text

theorem isSome_findIdx?_eq (names : List Text) (name : Text) :
    (names.findIdx? fun known => known = name).isSome = names.contains name := by
  rw [List.findIdx?_isSome, List.contains_eq_any_beq]
  congr 1
  funext known
  rw [Bool.beq_comm, beq_eq_decide]

theorem getElem?_of_findIdx? {names : List Text} {name : Text} {position : Nat}
    (found : (names.findIdx? fun known => known = name) = some position) :
    names[position]? = some name := by
  obtain ⟨within, same, _⟩ := List.findIdx?_eq_some_iff_getElem.mp found
  rw [List.getElem?_eq_getElem within, of_decide_eq_true same]

theorem findIdx?_of_mem {names : List Text} {name : Text} (member : name ∈ names) :
    ∃ position, (names.findIdx? fun known => known = name) = some position ∧
      names[position]? = some name := by
  rw [← List.contains_iff_mem, ← isSome_findIdx?_eq] at member
  obtain ⟨position, found⟩ := Option.isSome_iff_exists.mp member
  exact ⟨position, found, getElem?_of_findIdx? found⟩

/-- Among distinct names, the position that is found is the only one with the name. -/
theorem findIdx?_eq_some_iff {names : List Text} (distinct : names.Nodup) (name : Text)
    (position : Nat) :
    (names.findIdx? fun known => known = name) = some position ↔ names[position]? = some name := by
  refine ⟨getElem?_of_findIdx?, ?_⟩
  intro entry
  obtain ⟨first, found, same⟩ := findIdx?_of_mem (List.mem_of_getElem? entry)
  have within : first < names.length := (List.getElem?_eq_some_iff.mp same).1
  rw [found, (List.getElem?_inj within distinct).mp (same.trans entry.symm)]

end Text

namespace NameIndex

variable {α : Type} {index : NameIndex α} {make : Nat → α} {names : List Text}

theorem find?_insert (index : NameIndex α) (name : Text) (a : α) (other : Text) :
    (index.insert name a).1.find? other = if other = name then some a else index.find? other := by
  rw [insert, find?, List.lookup_cons]
  by_cases same : other = name
  · rw [if_pos same, beq_iff_eq.mpr same]
  · rw [if_neg same, beq_false_of_ne same]
    rfl

/-- The index with a name that it does not lead from yet. -/
def insertNew (index : NameIndex α) (name : Text) (a : α) : NameIndex α :=
  if (index.find? name).isSome then index else (index.insert name a).1

/-- The index leads from each of these names to what is made of its first position, and from no
other name. -/
def Positions (index : NameIndex α) (make : Nat → α) (names : List Text) : Prop :=
  ∀ name, index.find? name = (names.findIdx? fun known => known = name).map make

namespace Positions

theorem empty (make : Nat → α) : Positions {} make [] :=
  fun _ => rfl

theorem isSome_find? (positions : index.Positions make names) (name : Text) :
    (index.find? name).isSome = names.contains name := by
  rw [positions, Option.isSome_map, Text.isSome_findIdx?_eq]

/-- A name that is put behind the others stands there first, unless it is one of them. -/
theorem insertNew (positions : index.Positions make names) (name : Text) :
    (index.insertNew name (make names.length)).Positions make (names ++ [name]) := by
  intro other
  rw [List.findIdx?_append, Option.map_or, ← positions other, List.findIdx?_singleton,
    NameIndex.insertNew]
  cases found : index.find? name with
  | some a =>
      rw [Option.isSome_some, if_pos rfl]
      by_cases same : name = other
      · rw [← same, found, Option.some_or]
      · simp [same]
  | none =>
      rw [Option.isSome_none, if_neg Bool.false_ne_true, find?_insert]
      by_cases same : other = name
      · simp [same, found]
      · simp [same, Ne.symm same]

end Positions
end NameIndex
end GrpcBindings

import Mathlib.Data.List.Basic
import GrpcBindings.ObjectPath
import GrpcBindings.Proofs.Schema.FullNames

/-!
Full names begin with the package of their file, however deep the message is nested. So there is a
name within the package, and with it the object path of every message that a file declares.
-/

namespace GrpcBindings

/-- What names make in a package is a name within the package. -/
theorem Text.exists_dotted_eq_qualify (package : Text) {names : List Text} (nested : names ≠ []) :
    ∃ name, Text.dotted (package :: names) = qualify package name := by
  by_cases empty : package = []
  · exact ⟨Text.dotted names, by rw [empty, qualify, if_pos rfl, Text.dotted_cons_nil]⟩
  · obtain ⟨outermost, inner, rfl⟩ := List.exists_cons_of_ne_nil nested
    refine ⟨Text.join "." (outermost :: inner), ?_⟩
    rw [Text.dotted_cons empty, Text.join_cons_cons, qualify, if_neg empty]

theorem FileDescriptor.exists_eq_qualify (file : FileDescriptor) {fullName : Text}
    (declared : fullName ∈ file.fullNames) : ∃ name, fullName = qualify file.packageName name := by
  obtain ⟨names, nesting, rfl⟩ := List.mem_map.mp declared
  exact Text.exists_dotted_eq_qualify _
    (MessageDescriptor.ne_nil_of_mem_allNestings file.messages nesting)

/-- The name within the package is what the package has to be put before. -/
theorem localName_eq_ok {fullName package name : Text} :
    localName fullName package = .ok name ↔ fullName = qualify package name := by
  unfold localName qualify
  by_cases empty : package = []
  · rw [if_pos empty, if_pos empty, Except.ok.injEq]
  · rw [if_neg empty, if_neg empty]
    constructor
    · intro found
      split at found
      · rename_i rest isPrefix
        cases found
        have split := List.isPrefixOf?_eq_some_iff_append_eq.mp isPrefix
        rw [← split, List.append_assoc]
        rfl
      · cases found
    · rintro rfl
      rw [List.append_assoc, List.isPrefixOf?_eq_some_iff_append_eq.mpr rfl]
      rfl

theorem objectPath_eq_ok {fullName path package reference : Text} :
    objectPath fullName path package = .ok reference ↔
      ∃ name, fullName = qualify package name ∧ reference = moduleAlias path ++ "." ++ name := by
  rw [objectPath]
  cases found : localName fullName package with
  | error error =>
      constructor
      · intro same
        cases same
      · rintro ⟨name, same, _⟩
        rw [localName_eq_ok.mpr same] at found
        cases found
  | ok name =>
      have fullName_eq := localName_eq_ok.mp found
      constructor
      · intro same
        cases same
        exact ⟨name, fullName_eq, rfl⟩
      · rintro ⟨other, same, rfl⟩
        rw [localName_eq_ok.mpr same] at found
        cases found
        rfl

end GrpcBindings

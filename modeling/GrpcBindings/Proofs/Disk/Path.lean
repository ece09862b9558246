import GrpcBindings.Disk.Path
import GrpcBindings.Proofs.SchemaPath

/-!
Where paths on a disk lead, as names from the root. A path that is appended to another goes on from
where that one leads to, and if all its segments are names it only goes down.
-/

namespace GrpcBindings
namespace Disk.Path

/-- Follows one segment from a directory. There is nothing above the root. -/
def turn (directory : List Text) (segment : Text) : List Text :=
  if isIdle segment then directory
  else if segment = ".." then directory.dropLast
  else directory ++ [segment]

/-- Where a path leads to, if relative paths start where some names lead to from the root. -/
def destination (start : List Text) (path : Text) : List Text :=
  ((if isAbsolute path then [] else start) ++ path.pieces '/').foldl turn []

theorem turn_of_isName {segment : Text} (named : SchemaPath.IsName segment)
    (directory : List Text) :
    turn directory segment = directory ++ [segment] := by
  obtain ⟨filled, current, parent⟩ := named
  have moves : isIdle segment = false := by
    rw [isIdle, decide_eq_false filled, decide_eq_false current]
    rfl
  rw [turn, moves, if_neg Bool.false_ne_true]
  exact if_neg parent

theorem foldl_turn_of_isName {segments : List Text}
    (named : ∀ segment ∈ segments, SchemaPath.IsName segment) (directory : List Text) :
    segments.foldl turn directory = directory ++ segments := by
  induction segments generalizing directory with
  | nil => exact (List.append_nil directory).symm
  | cons segment rest ih =>
      rw [List.forall_mem_cons] at named
      rw [List.foldl_cons, turn_of_isName named.1, ih named.2, List.append_assoc,
        List.singleton_append]

theorem isAbsolute_append {base : Text} (filled : base ≠ []) (path : Text) :
    isAbsolute (base ++ path) = isAbsolute base := by
  cases base with
  | nil => exact absurd rfl filled
  | cons c rest => rfl

/-- Between the segments of two paths, appending them leaves at most one idle segment out. -/
theorem foldl_turn_join {base path : Text} (relative : isAbsolute path = false)
    (directory : List Text) :
    ((join base path).pieces '/').foldl turn directory =
      (path.pieces '/').foldl turn ((base.pieces '/').foldl turn directory) := by
  rw [join, relative, if_neg Bool.false_ne_true]
  split
  · rename_i seamless
    rcases seamless with rfl | slash
    · rfl
    · obtain ⟨front, rfl⟩ := List.getLast?_eq_some_iff.mp slash
      rw [List.append_assoc, List.singleton_append, Text.pieces_append_sep,
        Text.pieces_append_sep, List.foldl_append, List.foldl_append]
      rfl
  · rw [List.append_assoc]
    change (Text.pieces '/' (base ++ '/' :: path)).foldl turn directory = _
    rw [Text.pieces_append_sep, List.foldl_append]

theorem destination_join (start : List Text) (base : Text) {path : Text}
    (relative : isAbsolute path = false) :
    destination start (join base path) =
      (path.pieces '/').foldl turn (destination start base) := by
  have anchored : isAbsolute (join base path) = isAbsolute base := by
    rw [join, relative, if_neg Bool.false_ne_true]
    by_cases empty : base = []
    · rw [if_pos (.inl empty), empty]
      exact relative
    · split
      · exact isAbsolute_append empty path
      · rw [List.append_assoc, isAbsolute_append empty]
  rw [destination, anchored, List.foldl_append, foldl_turn_join relative, destination,
    List.foldl_append]

/-- A path of names leads down from wherever it is appended. -/
theorem destination_join_of_isName (start : List Text) (base : Text) {path : Text}
    (named : ∀ segment ∈ path.pieces '/', SchemaPath.IsName segment) :
    destination start (join base path) = destination start base ++ path.pieces '/' := by
  have relative : isAbsolute path = false := decide_eq_false (SchemaPath.head?_ne_slash named)
  rw [destination_join start base relative, foldl_turn_of_isName named]

/-- Below one directory, different paths of names lead to different places. -/
theorem eq_of_destination_eq {start : List Text} {base first second : Text}
    (named : ∀ segment ∈ first.pieces '/', SchemaPath.IsName segment)
    (otherNamed : ∀ segment ∈ second.pieces '/', SchemaPath.IsName segment)
    (same : destination start (join base first) = destination start (join base second)) :
    first = second := by
  rw [destination_join_of_isName start base named, destination_join_of_isName start base otherNamed,
    List.append_cancel_left_eq] at same
  rw [← Text.join_pieces '/' first, same, Text.join_pieces]

end Disk.Path
end GrpcBindings

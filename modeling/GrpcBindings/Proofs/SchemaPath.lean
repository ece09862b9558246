import Mathlib.Data.List.Basic
import Mathlib.Data.List.Induction
import GrpcBindings.SchemaPath

/-!
Schema paths segment by segment. An extension has no slash, so the modules of a file lie in the
directory of the file, and the segments of an accepted path lead down only. The way from one file to
another, followed from the directory of the first, climbs to the root and ends at the second.
-/

namespace GrpcBindings
namespace Text

theorem pieces_eq_splitOn (sep : Char) (t : Text) : t.pieces sep = List.splitOn sep t := by
  induction t with
  | nil => rfl
  | cons c rest ih =>
      rw [pieces, ih, List.splitOn_cons_eq_if_modifyHead]
      cases found : List.splitOn sep rest with
      | nil => exact absurd found (List.splitOn_ne_nil sep rest)
      | cons first more => simp

theorem join_eq_intercalate (sep : Text) (pieces : List Text) :
    join sep pieces = sep.intercalate pieces := by
  induction pieces with
  | nil => rfl
  | cons first rest ih =>
      cases rest with
      | nil => simp [join]
      | cons second more =>
          change first ++ sep ++ join sep (second :: more) = _
          rw [ih, List.intercalate_cons_cons]

theorem join_pieces (sep : Char) (t : Text) : join [sep] (t.pieces sep) = t := by
  rw [join_eq_intercalate, pieces_eq_splitOn, List.intercalate_splitOn]

theorem pieces_append_sep (sep : Char) (before after : Text) :
    (before ++ sep :: after).pieces sep = before.pieces sep ++ after.pieces sep := by
  simp only [pieces_eq_splitOn, List.splitOn_append_cons_self]

theorem length_pieces (sep : Char) (t : Text) : (t.pieces sep).length = t.count sep + 1 := by
  rw [pieces_eq_splitOn]
  induction t with
  | nil => rfl
  | cons c rest ih =>
      rw [List.splitOn_cons_eq_if_modifyHead, List.count_cons]
      split <;> simp [ih]

/-- What has no separator goes on with the last piece. -/
theorem pieces_append {sep : Char} {after : Text} (noSep : sep ∉ after) (before : Text) :
    ∃ outer last, before.pieces sep = outer ++ [last] ∧
      (before ++ after).pieces sep = outer ++ [last ++ after] := by
  induction before with
  | nil => exact ⟨[], [], rfl, by rw [pieces_eq_splitOn]; exact List.splitOn_eq_singleton noSep⟩
  | cons c rest ih =>
      obtain ⟨outer, last, alone, extended⟩ := ih
      by_cases separates : c = sep
      · exact ⟨[] :: outer, last, by simp [pieces, separates, alone],
          by simp [pieces, separates, extended]⟩
      · cases outer with
        | nil =>
            exact ⟨[], c :: last, by simp [pieces, separates, alone],
              by simp [pieces, separates, extended]⟩
        | cons first more =>
            exact ⟨(c :: first) :: more, last, by simp [pieces, separates, alone],
              by simp [pieces, separates, extended]⟩

end Text

namespace SchemaPath

/-- The names of the directories around a file, the outermost first. -/
def directory (path : Text) : List Text :=
  (path.pieces '/').dropLast

theorem length_directory (path : Text) : (directory path).length = path.count '/' := by
  rw [directory, List.length_dropLast, Text.length_pieces, Nat.add_sub_cancel]

theorem directory_append {name : Text} (noSlash : '/' ∉ name) (path : Text) :
    directory (path ++ name) = directory path := by
  obtain ⟨outer, last, alone, extended⟩ := Text.pieces_append noSlash path
  simp [directory, alone, extended]

/-- What the stem leaves out is an extension. -/
theorem exists_extension (path : Text) :
    ∃ extension ∈ ([".protodevel", ".proto", ""] : List Text), path = stem path ++ extension := by
  unfold stem
  split
  · rename_i found
    exact ⟨_, by simp, (List.isSuffixOf?_eq_some_iff_append_eq.mp found).symm⟩
  · cases found : List.isSuffixOf? (".proto" : Text) path with
    | none => exact ⟨"", by simp, (List.append_nil path).symm⟩
    | some stem => exact ⟨_, by simp, (List.isSuffixOf?_eq_some_iff_append_eq.mp found).symm⟩

theorem directory_stem (path : Text) : directory (stem path) = directory path := by
  obtain ⟨extension, known, same⟩ := exists_extension path
  have noSlash : '/' ∉ extension := by
    simp only [List.mem_cons, List.not_mem_nil, or_false] at known
    rcases known with rfl | rfl | rfl <;> decide
  conv_rhs => rw [same, directory_append noSlash]

theorem directory_serviceFile (path : Text) : directory (serviceFile path) = directory path := by
  rw [serviceFile, directory_append (by decide), directory_stem]

theorem fault?_of_check {path : Text} (fine : check path = .ok ()) : fault? path = none := by
  unfold check at fine
  cases found : fault? path with
  | none => rfl
  | some fault =>
      rw [found] at fine
      cases fine

/-- A segment that is the name of something in a directory. -/
def IsName (segment : Text) : Prop :=
  segment ≠ [] ∧ segment ≠ ['.'] ∧ segment ≠ ['.', '.']

theorem isName_of_check {path : Text} (fine : check path = .ok ()) :
    ∀ segment ∈ path.pieces '/', IsName segment := by
  have noFault := fault?_of_check fine
  unfold fault? at noFault
  split at noFault
  · cases noFault
  split at noFault
  · cases noFault
  split at noFault
  · cases noFault
  intro segment member
  have named := List.findSome?_eq_none_iff.mp noFault segment member
  unfold segmentFault? at named
  simp only [IsName]
  split_ifs at named with empty current parent
  exact ⟨empty, current, parent⟩

/-- What a stem goes on with makes a name of its last piece, whatever that is. -/
theorem isName_stem_append {path : Text} (fine : check path = .ok ()) {suffix : Text}
    (noSlash : '/' ∉ suffix) {c : Char} (ending : suffix.getLast? = some c) (noDot : c ≠ '.') :
    ∀ segment ∈ Text.pieces '/' (stem path ++ suffix), IsName segment := by
  obtain ⟨outer, last, alone, extended⟩ := Text.pieces_append noSlash (stem path)
  have directories : outer = directory path := by
    rw [← directory_stem, directory, alone, List.dropLast_concat]
  rw [extended, directories, List.forall_mem_append, List.forall_mem_singleton]
  constructor
  · intro segment member
    exact isName_of_check fine segment ((List.dropLast_sublist _).subset member)
  · have final : (last ++ suffix).getLast? = some c := by
      rw [List.getLast?_append, ending]
      rfl
    refine ⟨?_, ?_, ?_⟩
    · intro empty
      rw [empty] at final
      cases final
    · intro current
      rw [current] at final
      exact noDot (Option.some.inj final).symm
    · intro parent
      rw [parent] at final
      exact noDot (Option.some.inj final).symm

theorem isName_messageModule {path : Text} (fine : check path = .ok ()) :
    ∀ segment ∈ (messageModule path).pieces '/', IsName segment :=
  isName_stem_append fine (by decide) rfl (by decide)

theorem isName_serviceFile {path : Text} (fine : check path = .ok ()) :
    ∀ segment ∈ (serviceFile path).pieces '/', IsName segment :=
  isName_stem_append fine (by decide) rfl (by decide)

/-- A path of names does not begin at the root of the disk. -/
theorem head?_ne_slash {path : Text} (named : ∀ segment ∈ path.pieces '/', IsName segment) :
    path.head? ≠ some '/' := by
  cases path with
  | nil => simp
  | cons c rest =>
      intro slash
      obtain rfl := Option.some.inj slash
      rw [Text.pieces, if_pos rfl, List.forall_mem_cons] at named
      exact named.1.1 rfl

/-- Follows one segment from a directory. There is nothing above the root. -/
def step? (directory : List Text) (segment : Text) : Option (List Text) :=
  if segment = ['.'] then some directory
  else if segment = ['.', '.'] then
    if directory = [] then none else some directory.dropLast
  else some (directory ++ [segment])

/-- What a specifier leads to from a directory, unless it climbs above the root. -/
def resolve? (directory : List Text) (specifier : Text) : Option Text :=
  ((specifier.pieces '/').foldlM step? directory).map (Text.join "/")

theorem foldlM_step?_of_isName (directory : List Text) {segments : List Text}
    (named : ∀ segment ∈ segments, IsName segment) :
    segments.foldlM step? directory = some (directory ++ segments) := by
  induction segments generalizing directory with
  | nil => simp
  | cons segment rest ih =>
      rw [List.forall_mem_cons] at named
      obtain ⟨⟨_, current, parent⟩, others⟩ := named
      rw [List.foldlM_cons, step?, if_neg current, if_neg parent, Option.bind_eq_bind,
        Option.bind_some, ih _ others, List.append_assoc, List.singleton_append]

/-- As many steps up as there are directories end at the root. -/
theorem foldlM_step?_up (directory segments : List Text) :
    (List.replicate directory.length ['.', '.'] ++ segments).foldlM step? directory =
      segments.foldlM step? [] := by
  induction directory using List.reverseRecOn with
  | nil => rfl
  | append_singleton outer name ih =>
      rw [List.length_append, List.length_singleton, List.replicate_succ, List.cons_append,
        List.foldlM_cons]
      simpa [step?] using ih

theorem pieces_up (steps : Nat) (target : Text) :
    Text.pieces '/' ((List.replicate steps ("../" : Text)).flatten ++ target) =
      List.replicate steps ['.', '.'] ++ target.pieces '/' := by
  induction steps with
  | zero => rfl
  | succ steps ih =>
      rw [List.replicate_succ, List.replicate_succ, List.flatten_cons, List.cons_append, ← ih]
      exact Text.pieces_append_sep '/' ['.', '.'] _

/-- The way from a file to a target leads to the target from the directory of the file. -/
theorem resolve?_relative (source : Text) {target : Text}
    (named : ∀ segment ∈ target.pieces '/', IsName segment) :
    resolve? (directory source) (relative source target) = some target := by
  have down : ((target.pieces '/').foldlM step? []).map (Text.join "/") = some target := by
    rw [foldlM_step?_of_isName [] named, Option.map_some]
    exact congrArg some (Text.join_pieces '/' target)
  have depth := length_directory source
  unfold resolve?
  cases slashes : source.count '/' with
  | zero =>
      rw [slashes, List.length_eq_zero_iff] at depth
      have way : Text.pieces '/' (relative source target) = ['.'] :: target.pieces '/' := by
        rw [relative, slashes]
        exact Text.pieces_append_sep '/' ['.'] target
      simp only [way, depth, List.foldlM_cons, step?, if_true, Option.bind_eq_bind,
        Option.bind_some, down]
  | succ more =>
      have way : Text.pieces '/' (relative source target) =
          List.replicate (more + 1) ['.', '.'] ++ target.pieces '/' := by
        rw [relative, slashes]
        exact pieces_up (more + 1) target
      rw [way, ← slashes, ← depth, foldlM_step?_up, down]

end SchemaPath
end GrpcBindings

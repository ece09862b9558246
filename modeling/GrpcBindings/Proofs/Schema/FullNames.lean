import GrpcBindings.Schema

/-!
The full names of messages. A full name is made of the package and of the names that lead to the
message, those of the messages around it and its own, with dots between them. It comes to the same
to go through the messages and to put each name into the scope around it. A type name is a full name
with a dot in front, which may be missing.
-/

namespace GrpcBindings
namespace Text

theorem join_cons_cons (sep first second : Text) (more : List Text) :
    join sep (first :: second :: more) = first ++ sep ++ join sep (second :: more) := rfl

/-- The first piece may go as far as the end of the second. -/
theorem join_append_cons (sep first second : Text) (more : List Text) :
    join sep ((first ++ sep ++ second) :: more) = first ++ sep ++ join sep (second :: more) := by
  cases more with
  | nil => rfl
  | cons third more => simp only [join_cons_cons, List.append_assoc]

/-- Names with dots between them. Empty names in front make no scope. -/
def dotted (names : List Text) : Text :=
  join "." (names.dropWhile (· = []))

theorem dotted_cons_nil (names : List Text) : dotted ([] :: names) = dotted names := rfl

theorem dotted_cons {name : Text} (filled : name ≠ []) (names : List Text) :
    dotted (name :: names) = join "." (name :: names) := by
  rw [dotted, List.dropWhile_cons_of_neg (by simpa using filled)]

/-- A type name stands for a full name with a dot before it, or for itself if it has no such dot. -/
def Names (typeName fullName : Text) : Prop :=
  typeName = '.' :: fullName ∨ typeName = fullName ∧ typeName.head? ≠ some '.'

instance (typeName fullName : Text) : Decidable (Names typeName fullName) :=
  inferInstanceAs (Decidable (_ ∨ _))

theorem names_iff {typeName fullName : Text} :
    typeName.Names fullName ↔ dropLeadingDot typeName = fullName := by
  cases typeName with
  | nil => simp [Names, dropLeadingDot]
  | cons c rest =>
      by_cases dot : c = '.'
      · simp [Names, dropLeadingDot, dot]
      · simp [Names, dropLeadingDot, dot]

theorem exists_names_iff {typeName : Text} {fullNames : List Text} :
    (∃ fullName ∈ fullNames, typeName.Names fullName) ↔ dropLeadingDot typeName ∈ fullNames := by
  simp [names_iff]

end Text

/-- The scope that names make, one put into the other. -/
theorem foldl_qualify_eq (scope : Text) (names : List Text) :
    names.foldl qualify scope = Text.dotted (scope :: names) := by
  induction names generalizing scope with
  | nil =>
      by_cases empty : scope = []
      · rw [empty]
        rfl
      · exact (Text.dotted_cons empty []).symm
  | cons name rest ih =>
      rw [List.foldl_cons, ih]
      by_cases empty : scope = []
      · rw [qualify, if_pos empty, empty, Text.dotted_cons_nil]
      · have filled : (scope ++ "." ++ name : Text) ≠ [] := by simp [empty]
        rw [qualify, if_neg empty, Text.dotted_cons filled, Text.dotted_cons empty,
          Text.join_append_cons, Text.join_cons_cons]

theorem qualify_eq_dotted (scope name : Text) : qualify scope name = Text.dotted [scope, name] :=
  foldl_qualify_eq scope [name]

namespace MessageDescriptor

/-- The full name of a message in a scope. -/
def fullName (scope : Text) : MessageDescriptor → Text
  | .mk name _ => qualify scope (name.getD [])

mutual

/-- The full name of a message, then those of the messages nested in it. -/
def fullNames (scope : Text) : MessageDescriptor → List Text
  | .mk name nested =>
      qualify scope (name.getD []) :: allFullNames (qualify scope (name.getD [])) nested

def allFullNames (scope : Text) : List MessageDescriptor → List Text
  | [] => []
  | first :: rest => first.fullNames scope ++ allFullNames scope rest

end

theorem fullNames_eq_cons (scope : Text) (message : MessageDescriptor) :
    ∃ nested, message.fullNames scope = message.fullName scope :: nested := by
  cases message with
  | mk name nested => exact ⟨_, rfl⟩

mutual

/-- The names that lead to a message and to those nested in it, the outermost first. -/
def nestings : MessageDescriptor → List (List Text)
  | .mk name nested => [name.getD []] :: (allNestings nested).map (name.getD [] :: ·)

def allNestings : List MessageDescriptor → List (List Text)
  | [] => []
  | first :: rest => first.nestings ++ allNestings rest

end

mutual

/-- A full name is what the names on the way to a message make of the scope. -/
theorem fullNames_eq_map (scope : Text) :
    (message : MessageDescriptor) →
      message.fullNames scope = message.nestings.map (·.foldl qualify scope)
  | .mk name nested => by
      rw [fullNames, nestings, List.map_cons, List.map_map, allFullNames_eq_map]
      rfl

theorem allFullNames_eq_map (scope : Text) :
    (messages : List MessageDescriptor) →
      allFullNames scope messages = (allNestings messages).map (·.foldl qualify scope)
  | [] => rfl
  | first :: rest => by
      rw [allFullNames, allNestings, List.map_append, fullNames_eq_map, allFullNames_eq_map]

end

mutual

theorem ne_nil_of_mem_nestings {names : List Text} :
    (message : MessageDescriptor) → names ∈ message.nestings → names ≠ []
  | .mk name nested => by
      rw [nestings, List.mem_cons, List.mem_map]
      rintro (rfl | ⟨inner, _, rfl⟩)
      · exact List.cons_ne_nil _ _
      · exact List.cons_ne_nil _ _

theorem ne_nil_of_mem_allNestings {names : List Text} :
    (messages : List MessageDescriptor) → names ∈ allNestings messages → names ≠ []
  | [] => by simp [allNestings]
  | first :: rest => by
      rw [allNestings, List.mem_append]
      rintro (member | member)
      · exact ne_nil_of_mem_nestings first member
      · exact ne_nil_of_mem_allNestings rest member

end

end MessageDescriptor

namespace FileDescriptor

/-- The names that lead to each message of a file. -/
def nestings (file : FileDescriptor) : List (List Text) :=
  MessageDescriptor.allNestings file.messages

/-- The full names of all messages that a file declares. -/
def fullNames (file : FileDescriptor) : List Text :=
  file.nestings.map fun names => Text.dotted (file.packageName :: names)

theorem fullNames_eq (file : FileDescriptor) :
    file.fullNames = MessageDescriptor.allFullNames file.packageName file.messages := by
  simp only [fullNames, nestings, MessageDescriptor.allFullNames_eq_map, foldl_qualify_eq]

/-- Every full name that a file declares, with the path of the file. -/
def declarations (file : FileDescriptor) : List (Text × Text) :=
  file.fullNames.map fun fullName => (fullName, file.path)

end FileDescriptor

/-- The full name of a service in a package. -/
def ServiceDescriptor.fullName (package : Text) (service : ServiceDescriptor) : Text :=
  Text.dotted [package, service.name.getD []]

end GrpcBindings

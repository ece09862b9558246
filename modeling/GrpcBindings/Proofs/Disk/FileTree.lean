import GrpcBindings.Disk.FileTree
import GrpcBindings.Proofs.Disk.Path

/-!
Trees of files as maps from names to what is there. Saving a file changes the map at the one place
its path leads to, and creating directories fills places where there was nothing. What a path leads
to does not change by either, and a path that could be followed can still be followed.
-/

namespace GrpcBindings
namespace Disk

/-- What is at a place, apart from what is in it if it is a directory. -/
inductive Kind where
  | directory
  | file (content : Octets)
  deriving DecidableEq, Repr

namespace Node

def kind : Node → Kind
  | directory _ => .directory
  | file content => .file content

/-- What names lead to from a node. -/
def at? : List Text → Node → Option Node
  | [], node => some node
  | name :: names, node => (node.entries.lookup name).bind (at? names)

def kind? (node : Node) (names : List Text) : Option Kind :=
  (node.at? names).map kind

theorem at?_append (outer inner : List Text) (node : Node) :
    node.at? (outer ++ inner) = (node.at? outer).bind (at? inner) := by
  induction outer generalizing node with
  | nil => rfl
  | cons name outer ih =>
      rw [List.cons_append, at?, at?, Option.bind_assoc]
      exact congrArg _ (funext ih)

theorem kind?_nil (node : Node) : node.kind? [] = some node.kind := rfl

theorem kind?_cons (node : Node) (name : Text) (names : List Text) :
    node.kind? (name :: names) = (node.entries.lookup name).bind (·.kind? names) := by
  rw [kind?, at?, Option.map_bind]
  rfl

/-- In a file, as in an empty directory, there is nothing. -/
theorem kind?_of_entries_eq_nil {node : Node} (bare : node.entries = []) {names : List Text}
    (filled : names ≠ []) : node.kind? names = none := by
  cases names with
  | nil => exact absurd rfl filled
  | cons name names => rw [kind?_cons, bare, List.lookup_nil, Option.bind_none]

/-- Nor is there anything in what is no directory. -/
theorem bind_kind?_eq_none {node : Option Node} (noDirectory : node.map kind ≠ some .directory)
    {names : List Text} (filled : names ≠ []) : node.bind (·.kind? names) = none := by
  cases node with
  | none => rfl
  | some node =>
      cases node with
      | directory entries => exact absurd rfl noDirectory
      | file content => exact kind?_of_entries_eq_nil rfl filled

theorem kind_eq_directory {node : Node} :
    node.kind = .directory ↔ ∃ entries, node = directory entries := by
  cases node <;> simp [kind]

end Node

namespace Entries

theorem lookup_cons (name other : Text) (node : Node) (entries : Entries) :
    List.lookup other ((name, node) :: entries) =
      if other = name then some node else entries.lookup other := by
  rw [List.lookup_cons]
  by_cases same : other = name
  · rw [if_pos same, beq_iff_eq.mpr same]
  · rw [if_neg same, beq_eq_false_iff_ne.mpr same]

theorem lookup_put (name other : Text) (node : Node) (entries : Entries) :
    (put name node entries).lookup other =
      if other = name then some node else entries.lookup other := by
  induction entries with
  | nil => exact lookup_cons name other node []
  | cons first rest ih =>
      obtain ⟨key, old⟩ := first
      rw [put]
      split
      · rename_i found
        rw [lookup_cons, lookup_cons, found]
        split <;> rfl
      · rename_i elsewhere
        rw [lookup_cons, lookup_cons, ih]
        by_cases here : other = key
        · rw [if_pos here, if_pos here, if_neg fun same => elsewhere (here.symm.trans same)]
        · rw [if_neg here, if_neg here]

/-- A change at one place within what a name stands for is a change at one place of the directory
that has the name. -/
theorem kind?_put {name : Text} {node : Node} {outer : Entries} {place : List Text}
    {kind : Option Kind}
    (changed : ∀ names, node.kind? names =
      if names = place then kind else (outer.lookup name).bind (·.kind? names))
    (names : List Text) :
    (Node.directory (put name node outer)).kind? names =
      if names = name :: place then kind else (Node.directory outer).kind? names := by
  cases names with
  | nil => rfl
  | cons other names =>
      rw [Node.kind?_cons, Node.kind?_cons]
      simp only [Node.entries, lookup_put]
      by_cases same : other = name
      · simp [same, changed]
      · simp [same]

end Entries

namespace Position

/-- The names that lead to a position from the root. -/
def namesOf (around : List (Text × Entries)) : List Text :=
  (around.map (·.1)).reverse

def names (position : Position) : List Text :=
  namesOf position.around

/-- The directories around a position are those of a root. -/
def Surrounds (root : Node) : List (Text × Entries) → Prop
  | [] => True
  | (_, outer) :: rest => root.at? (namesOf rest) = some (.directory outer) ∧ Surrounds root rest

/-- A position as it is in the tree below a root. -/
structure In (position : Position) (root : Node) : Prop where
  node : position.node = root.at? position.names
  around : Surrounds root position.around

theorem namesOf_cons (name : Text) (outer : Entries) (rest : List (Text × Entries)) :
    namesOf ((name, outer) :: rest) = namesOf rest ++ [name] := by
  simp [namesOf]

theorem in_ofRoot (root : Entries) : (ofRoot root).In (.directory root) :=
  ⟨rfl, trivial⟩

variable {root root' : Node} {position next : Position} {segment : Text}

theorem directory_of_step (followed : position.step segment = .ok next) :
    ∃ entries, position.node = some (.directory entries) := by
  unfold step at followed
  split at followed
  · cases followed
  · cases followed
  · exact ⟨_, by assumption⟩

/-- Steps lead where the segments say, as long as they can be taken. -/
theorem In.step (inside : position.In root) (followed : position.step segment = .ok next) :
    next.In root ∧ next.names = Path.turn position.names segment := by
  obtain ⟨entries, here⟩ := directory_of_step followed
  unfold Position.step at followed
  rw [here] at followed
  unfold Path.turn
  simp only at followed
  split_ifs at followed ⊢ with idle up long
  · cases followed
    exact ⟨inside, rfl⟩
  · obtain ⟨node, around⟩ := position
    cases around with
    | nil =>
        cases followed
        exact ⟨inside, rfl⟩
    | cons first rest =>
        obtain ⟨name, outer⟩ := first
        cases followed
        refine ⟨⟨inside.around.1.symm, inside.around.2⟩, ?_⟩
        simp only [names, namesOf_cons, List.dropLast_concat]
  · cases followed
    have found : root.at? position.names = some (.directory entries) := by
      rw [← inside.node, here]
    refine ⟨⟨?_, found, inside.around⟩, namesOf_cons segment entries position.around⟩
    simp only [names, namesOf_cons, Node.at?_append]
    rw [show namesOf position.around = position.names from rfl, found]
    simp [Node.at?, Node.entries]

theorem In.foldlM (segments : List Text) (inside : position.In root)
    (followed : segments.foldlM Position.step position = .ok next) :
    next.In root ∧ next.names = segments.foldl Path.turn position.names := by
  induction segments generalizing position with
  | nil =>
      cases followed
      exact ⟨inside, rfl⟩
  | cons segment rest ih =>
      rw [List.foldlM_cons] at followed
      cases first : position.step segment with
      | error fault =>
          rw [first] at followed
          cases followed
      | ok middle =>
          rw [first] at followed
          obtain ⟨insideNext, turned⟩ := inside.step first
          rw [List.foldl_cons, ← turned]
          exact ih insideNext followed

/-- A step that can be taken from a directory can be taken from every other. -/
theorem exists_step {other : Position} {entries : Entries}
    (followed : position.step segment = .ok next)
    (here : other.node = some (.directory entries)) : ∃ next, other.step segment = .ok next := by
  obtain ⟨_, found⟩ := directory_of_step followed
  unfold Position.step at followed ⊢
  rw [found] at followed
  rw [here]
  simp only at followed ⊢
  split_ifs at followed ⊢ with idle up long
  · exact ⟨_, rfl⟩
  · split <;> exact ⟨_, rfl⟩
  · exact ⟨_, rfl⟩

/-- A path that can be followed can be followed in every tree that has the same directories. -/
theorem exists_foldlM {other : Position} (segments : List Text) (inside : position.In root)
    (otherInside : other.In root') (same : other.names = position.names)
    (kept : ∀ names, root.kind? names = some .directory → root'.kind? names = some .directory)
    (followed : segments.foldlM Position.step position = .ok next) :
    ∃ next, segments.foldlM Position.step other = .ok next := by
  induction segments generalizing position other with
  | nil => exact ⟨other, rfl⟩
  | cons segment rest ih =>
      rw [List.foldlM_cons] at followed
      cases first : position.step segment with
      | error fault =>
          rw [first] at followed
          cases followed
      | ok middle =>
          rw [first] at followed
          obtain ⟨entries, here⟩ := directory_of_step first
          -- The same names lead to both positions, so both are directories or neither is.
          have directory : other.node.map Node.kind = some .directory := by
            rw [otherInside.node, same]
            apply kept
            rw [Node.kind?, ← inside.node, here]
            rfl
          obtain ⟨node, found, kind⟩ := Option.map_eq_some_iff.mp directory
          obtain ⟨otherEntries, rfl⟩ := Node.kind_eq_directory.mp kind
          obtain ⟨otherMiddle, otherFirst⟩ := exists_step first found
          obtain ⟨insideMiddle, turned⟩ := inside.step first
          obtain ⟨otherInsideMiddle, otherTurned⟩ := otherInside.step otherFirst
          obtain ⟨last, reached⟩ := ih insideMiddle otherInsideMiddle
            (by rw [turned, otherTurned, same]) followed
          refine ⟨last, ?_⟩
          rw [List.foldlM_cons, otherFirst]
          exact reached

/-- What changes in a directory at one place changes in the tree at that place only. -/
theorem kind?_rootOf {around : List (Text × Entries)} (surrounds : Surrounds root around)
    {old new : Entries} (here : root.at? (namesOf around) = some (.directory old))
    {place : List Text} {kind : Option Kind}
    (changed : ∀ names, (Node.directory new).kind? names =
      if names = place then kind else (Node.directory old).kind? names)
    (names : List Text) :
    (Node.directory (rootOf new around)).kind? names =
      if names = namesOf around ++ place then kind else root.kind? names := by
  induction around generalizing old new place with
  | nil =>
      obtain rfl := Option.some.inj here
      exact changed names
  | cons first rest ih =>
      obtain ⟨name, outer⟩ := first
      have inner : outer.lookup name = some (.directory old) := by
        rw [namesOf_cons, Node.at?_append, surrounds.1] at here
        simpa [Node.at?, Node.entries] using here
      rw [rootOf, namesOf_cons, List.append_assoc, List.singleton_append]
      -- Seen from the directory around, the place is one name longer.
      apply ih surrounds.2 surrounds.1
      apply Entries.kind?_put
      intro names
      rw [changed, inner]
      rfl

/-- Putting a file or an empty directory where there was nothing or a file changes nothing else. -/
theorem In.kind?_put? (inside : position.In root) {node : Node} (bare : node.entries = [])
    (was : position.node.map Node.kind ≠ some .directory) {entries : Entries}
    (put : position.put? node = some entries) (names : List Text) :
    (Node.directory entries).kind? names =
      if names = position.names then some node.kind else root.kind? names := by
  obtain ⟨old, around⟩ := position
  cases around with
  | nil => cases put
  | cons first rest =>
      obtain ⟨name, outer⟩ := first
      cases put
      obtain ⟨found, ⟨directory, surrounds⟩⟩ := inside
      rw [Position.names, namesOf_cons]
      apply kind?_rootOf surrounds directory
      apply Entries.kind?_put
      intro names
      have child : old = outer.lookup name := by
        rw [Position.names, namesOf_cons, Node.at?_append, directory] at found
        simpa [Node.at?, Node.entries] using found
      rw [← child]
      split
      · rename_i empty
        rw [empty, Node.kind?_nil]
      · rename_i filled
        rw [Node.kind?_of_entries_eq_nil bare filled, Node.bind_kind?_eq_none was filled]

end Position
end Disk

open Disk

namespace FileTree

/-- What is at the place that names lead to from the root. -/
def kind? (tree : FileTree) (names : List Text) : Option Kind :=
  (Node.directory tree.root).kind? names

/-- A tree after a change at one place. -/
structure ChangedAt (tree tree' : FileTree) (place : List Text) (kind : Kind) : Prop where
  workingDirectory : tree'.workingDirectory = tree.workingDirectory
  kind? : ∀ names, tree'.kind? names = if names = place then some kind else tree.kind? names

/-- At a place there is what there was, or a new directory if there was nothing. -/
def GrownAt (tree tree' : FileTree) (names : List Text) : Prop :=
  tree'.kind? names = tree.kind? names ∨
    tree.kind? names = none ∧ tree'.kind? names = some .directory

/-- A tree in which directories were created where there was nothing. -/
structure Grown (tree tree' : FileTree) : Prop where
  workingDirectory : tree'.workingDirectory = tree.workingDirectory
  everywhere : ∀ names, tree.GrownAt tree' names

/-- A tree in which every directory of another is where it was. -/
structure KeepsDirectories (tree tree' : FileTree) : Prop where
  workingDirectory : tree'.workingDirectory = tree.workingDirectory
  kind? : ∀ names, tree.kind? names = some .directory → tree'.kind? names = some .directory

variable {tree tree' tree'' : FileTree} {path : Text} {position : Position}

theorem GrownAt.trans {names : List Text} (first : tree.GrownAt tree' names)
    (second : tree'.GrownAt tree'' names) : tree.GrownAt tree'' names := by
  rcases second with same | ⟨absent, created⟩
  · unfold GrownAt
    rw [same]
    exact first
  · rcases first with same | ⟨_, directory⟩
    · exact .inr ⟨same ▸ absent, created⟩
    · rw [directory] at absent
      cases absent

/-- Files neither come nor go, and stay as they are. -/
theorem GrownAt.file_iff {names : List Text} (grown : tree.GrownAt tree' names)
    (content : Octets) :
    tree'.kind? names = some (.file content) ↔ tree.kind? names = some (.file content) := by
  rcases grown with same | ⟨absent, created⟩
  · rw [same]
  · rw [absent, created]
    exact ⟨nofun, nofun⟩

theorem Grown.refl (tree : FileTree) : tree.Grown tree :=
  ⟨rfl, fun _ => .inl rfl⟩

theorem Grown.trans (first : tree.Grown tree') (second : tree'.Grown tree'') :
    tree.Grown tree'' :=
  ⟨second.workingDirectory.trans first.workingDirectory,
    fun names => (first.everywhere names).trans (second.everywhere names)⟩

theorem ChangedAt.grown {place : List Text} (changed : tree.ChangedAt tree' place .directory)
    (absent : tree.kind? place = none) : tree.Grown tree' := by
  refine ⟨changed.workingDirectory, ?_⟩
  intro names
  unfold GrownAt
  rw [changed.kind?]
  split
  · rename_i here
    exact .inr ⟨here ▸ absent, rfl⟩
  · exact .inl rfl

theorem Grown.keepsDirectories (grown : tree.Grown tree') : tree.KeepsDirectories tree' := by
  refine ⟨grown.workingDirectory, ?_⟩
  intro names directory
  rcases grown.everywhere names with same | ⟨absent, _⟩
  · rw [same, directory]
  · rw [directory] at absent
    cases absent

theorem ChangedAt.keepsDirectories {place : List Text} {kind : Kind}
    (changed : tree.ChangedAt tree' place kind) (was : tree.kind? place ≠ some .directory) :
    tree.KeepsDirectories tree' := by
  refine ⟨changed.workingDirectory, ?_⟩
  intro names directory
  rw [changed.kind?, if_neg, directory]
  rintro rfl
  exact was directory

theorem KeepsDirectories.trans (first : tree.KeepsDirectories tree')
    (second : tree'.KeepsDirectories tree'') : tree.KeepsDirectories tree'' :=
  ⟨second.workingDirectory.trans first.workingDirectory,
    fun names directory => second.kind? names (first.kind? names directory)⟩

/-- A path is located by following its segments. -/
theorem locate_eq_ok : tree.locate path = .ok position ↔
    ('\x00' ∉ path ∧ path ≠ [] ∧ path.utf8.length ≤ pathLimit) ∧
      ((if Path.isAbsolute path then [] else tree.workingDirectory) ++ path.pieces '/').foldlM
        Position.step (.ofRoot tree.root) = .ok position := by
  unfold locate
  split
  · rename_i nul
    exact ⟨nofun, fun ⟨⟨plain, _⟩, _⟩ => absurd nul plain⟩
  split
  · rename_i empty
    exact ⟨nofun, fun ⟨⟨_, filled, _⟩, _⟩ => absurd empty filled⟩
  split
  · rename_i long
    exact ⟨nofun, fun ⟨⟨_, _, short⟩, _⟩ => absurd short (Nat.not_le.mpr long)⟩
  · rename_i plain filled short
    exact ⟨fun followed => ⟨⟨plain, filled, Nat.not_lt.mp short⟩, followed⟩, And.right⟩

/-- What is located is at the destination of the path. -/
theorem in_of_locate (located : tree.locate path = .ok position) :
    position.In (.directory tree.root) ∧
      position.names = Path.destination tree.workingDirectory path :=
  Position.In.foldlM _ (Position.in_ofRoot tree.root) (locate_eq_ok.mp located).2

theorem kind_of_locate (located : tree.locate path = .ok position) :
    position.node.map Node.kind = tree.kind? (Path.destination tree.workingDirectory path) := by
  obtain ⟨inside, names⟩ := in_of_locate located
  rw [inside.node, names]
  rfl

theorem KeepsDirectories.exists_locate (kept : tree.KeepsDirectories tree')
    (located : tree.locate path = .ok position) : ∃ position, tree'.locate path = .ok position := by
  obtain ⟨fine, followed⟩ := locate_eq_ok.mp located
  obtain ⟨next, reached⟩ := Position.exists_foldlM _ (Position.in_ofRoot tree.root)
    (Position.in_ofRoot tree'.root) rfl kept.kind? followed
  exact ⟨next, locate_eq_ok.mpr ⟨fine, by rw [kept.workingDirectory]; exact reached⟩⟩

/-- What is loaded is the file at the destination of the path, which must be one that can be
followed. -/
theorem load_eq_ok {content : Octets} : tree.load path = .ok content ↔
    (∃ position, tree.locate path = .ok position) ∧
      tree.kind? (Path.destination tree.workingDirectory path) = some (.file content) := by
  unfold load
  cases located : tree.locate path with
  | error fault =>
      constructor
      · nofun
      · rintro ⟨⟨_, found⟩, _⟩
        cases found
  | ok position =>
      rw [← kind_of_locate located]
      simp only [bind, Except.bind]
      cases found : position.node with
      | none => exact ⟨nofun, nofun⟩
      | some node =>
          cases node with
          | directory entries => exact ⟨nofun, nofun⟩
          | file saved =>
              constructor
              · intro loaded
                cases loaded
                exact ⟨⟨position, rfl⟩, rfl⟩
              · rintro ⟨_, kind⟩
                cases kind
                rfl

/-- A file is saved where its path leads, unless there is a directory. -/
theorem changedAt_of_save {content : Octets} (saved : tree.save path content = .ok tree') :
    tree.ChangedAt tree' (Path.destination tree.workingDirectory path) (.file content) ∧
      tree.kind? (Path.destination tree.workingDirectory path) ≠ some .directory ∧
      ∃ position, tree.locate path = .ok position := by
  unfold save at saved
  cases located : tree.locate path with
  | error fault =>
      rw [located] at saved
      cases saved
  | ok position =>
      rw [located] at saved
      simp only [bind, Except.bind] at saved
      split at saved
      · cases saved
      · cases saved
      · rename_i put noDirectory
        cases saved
        obtain ⟨inside, names⟩ := in_of_locate located
        have was : position.node.map Node.kind ≠ some .directory := by
          intro directory
          obtain ⟨node, found, kind⟩ := Option.map_eq_some_iff.mp directory
          obtain ⟨entries, rfl⟩ := Node.kind_eq_directory.mp kind
          exact noDirectory entries found
        refine ⟨⟨rfl, ?_⟩, kind_of_locate located ▸ was, position, rfl⟩
        rw [← names]
        exact inside.kind?_put? rfl was put

theorem keepsDirectories_of_save {content : Octets} (saved : tree.save path content = .ok tree') :
    tree.KeepsDirectories tree' := by
  obtain ⟨changed, noDirectory, _⟩ := changedAt_of_save saved
  exact changed.keepsDirectories noDirectory

/-- What was saved can be loaded. -/
theorem load_of_save {content : Octets} (saved : tree.save path content = .ok tree') :
    tree'.load path = .ok content := by
  obtain ⟨changed, _, _, located⟩ := changedAt_of_save saved
  refine load_eq_ok.mpr ⟨(keepsDirectories_of_save saved).exists_locate located, ?_⟩
  rw [changed.workingDirectory, changed.kind?, if_pos rfl]

/-- A directory is created where there is nothing. -/
theorem changedAt_of_createDirectory (created : tree.createDirectory path = .ok tree') :
    tree.ChangedAt tree' (Path.destination tree.workingDirectory path) .directory ∧
      tree.kind? (Path.destination tree.workingDirectory path) = none := by
  unfold createDirectory at created
  cases located : tree.locate path with
  | error fault =>
      rw [located] at created
      cases created
  | ok position =>
      rw [located] at created
      simp only [bind, Except.bind] at created
      split at created
      · rename_i absent put
        cases created
        obtain ⟨inside, names⟩ := in_of_locate located
        have was : position.node.map Node.kind = none := by rw [absent, Option.map_none]
        refine ⟨⟨rfl, ?_⟩, kind_of_locate located ▸ was⟩
        rw [← names]
        exact inside.kind?_put? rfl (by rw [was]; nofun) put
      · cases created

theorem grown_of_createDirectory (created : tree.createDirectory path = .ok tree') :
    tree.Grown tree' := by
  obtain ⟨changed, absent⟩ := changedAt_of_createDirectory created
  exact changed.grown absent

theorem grown_of_ensureDirectory (ensured : tree.ensureDirectory path = .ok tree') :
    tree.Grown tree' := by
  unfold ensureDirectory at ensured
  split at ensured
  · rename_i created
    cases ensured
    exact grown_of_createDirectory created
  · split at ensured
    · cases ensured
      exact .refl tree
    · cases ensured

/-- Whether or not all directories could be created, nothing that was there has changed. -/
theorem grown_createDirectories (tree : FileTree) (paths : List Text) :
    tree.Grown (tree.createDirectories paths).1 := by
  induction paths with
  | nil => exact .refl tree
  | cons path outer ih =>
      unfold createDirectories
      split
      · rename_i created
        exact grown_of_createDirectory created
      · split
        · rename_i around outside
          rw [outside] at ih
          split
          · rename_i ensured
            exact ih.trans (grown_of_ensureDirectory ensured)
          · exact ih
        · rename_i outside
          rw [outside] at ih
          exact ih
      · exact .refl tree

end FileTree
end GrpcBindings

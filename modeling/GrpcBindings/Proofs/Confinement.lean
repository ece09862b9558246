import GrpcBindings.Proofs.Disk.FileTree
import GrpcBindings.Proofs.Generation
import GrpcBindings.Proofs.ImportResolution

/-!
Where generated files lie. The name of a file is made from a path that was accepted, and although
its last segment is a new one, the name would be accepted too. It keeps the directories of the path,
so below whatever directory it is appended to, it leads further down and never out.
-/

namespace GrpcBindings
namespace SchemaPath

/-- A path is accepted if it is relative, has no backslash, and has names only. -/
theorem check_eq_ok {path : Text} : check path = .ok () ↔
    path ≠ [] ∧ path.head? ≠ some '/' ∧ '\\' ∉ path ∧
      ∀ segment ∈ path.pieces '/', IsName segment := by
  constructor
  · intro fine
    have noFault := fault?_of_check fine
    unfold fault? at noFault
    split_ifs at noFault with empty absolute backslash
    exact ⟨empty, absolute, backslash, isName_of_check fine⟩
  · rintro ⟨filled, relative, noBackslash, named⟩
    have noFault : (path.pieces '/').findSome? segmentFault? = none := by
      rw [List.findSome?_eq_none_iff]
      intro segment member
      obtain ⟨notEmpty, notCurrent, notParent⟩ := named segment member
      rw [segmentFault?, if_neg notEmpty, if_neg notCurrent, if_neg notParent]
    rw [check, fault?, if_neg filled, if_neg relative, if_neg noBackslash, noFault]

theorem check_serviceFile {path : Text} (fine : check path = .ok ()) :
    check (serviceFile path) = .ok () := by
  have named := isName_serviceFile fine
  obtain ⟨_, _, noBackslash, _⟩ := check_eq_ok.mp fine
  obtain ⟨extension, _, whole⟩ := exists_extension path
  refine check_eq_ok.mpr ⟨?_, head?_ne_slash named, ?_, named⟩
  · exact List.append_ne_nil_of_right_ne_nil _ (by decide)
  · rw [serviceFile, List.mem_append, not_or]
    refine ⟨?_, by decide⟩
    intro inStem
    rw [whole] at noBackslash
    exact noBackslash (List.mem_append_left extension inStem)

end SchemaPath

/-- What the name of a file is made for, given the path that was asked for: it lies beside what the
path names, and strictly below every directory that it is appended to. -/
structure Confined (path name : Text) : Prop where
  accepted : SchemaPath.check name = .ok ()
  directory : SchemaPath.directory name = SchemaPath.directory path
  below : ∀ start directory, ∃ names, names ≠ [] ∧
    Disk.Path.destination start (Disk.Path.join directory name) =
      Disk.Path.destination start directory ++ names
  /-- This is where a tree of files has it. -/
  located : ∀ (tree : FileTree) directory position,
    tree.locate (Disk.Path.join directory name) = .ok position →
    ∃ names, names ≠ [] ∧
      position.names = Disk.Path.destination tree.workingDirectory directory ++ names

theorem confined_serviceFile {path : Text} (fine : SchemaPath.check path = .ok ()) :
    Confined path (SchemaPath.serviceFile path) := by
  have named := SchemaPath.isName_serviceFile fine
  have filled : (SchemaPath.serviceFile path).pieces '/' ≠ [] := by
    rw [Text.pieces_eq_splitOn]
    exact List.splitOn_ne_nil '/' _
  have down (start : List Text) (directory : Text) :=
    Disk.Path.destination_join_of_isName start directory named
  refine
    {
      accepted := SchemaPath.check_serviceFile fine
      directory := SchemaPath.directory_serviceFile path
      below := fun start directory => ⟨_, filled, down start directory⟩
      located := ?_
    }
  intro tree directory position located
  obtain ⟨_, names⟩ := FileTree.in_of_locate located
  exact ⟨_, filled, names.trans (down tree.workingDirectory directory)⟩

namespace Generation

variable {descriptors : List FileDescriptor} {schema : Schema}

/-- There is a file for each path that can be served, in their order, whatever the others are. -/
theorem ofPaths_files_servable (accepted : Schema.ofDescriptors descriptors = .ok schema)
    (options : Options) (paths : List Text) :
    List.Forall₂ (fun path file => schema.generatePath path options = .ok file)
      (paths.filter fun path => Servable descriptors path)
      (ofPaths schema options paths).files := by
  induction paths with
  | nil => exact .nil
  | cons path rest ih =>
      have served := Schema.generatePath_ok_iff accepted options path
      rw [ofPaths]
      cases result : schema.generatePath path options with
      | ok file =>
          have servable : Servable descriptors path := served.mp ⟨file, result⟩
          rw [List.filter_cons_of_pos (by simpa using servable)]
          exact .cons result ih
      | error error =>
          have refused : ¬ Servable descriptors path := by
            intro servable
            obtain ⟨_, found⟩ := served.mpr servable
            rw [result] at found
            cases found
          rw [List.filter_cons_of_neg (by simpa using refused)]
          exact ih

/-- No file of a generation has a name that leads out of a directory. -/
theorem files_confined {paths : List Text} {parameter : Text} {generation : Generation}
    (generated : run descriptors paths parameter = .ok generation) :
    List.Forall₂ (fun path file => Confined path file.name)
      (paths.filter fun path => Servable descriptors path) generation.files := by
  obtain ⟨options, schema, _, accepted, rfl⟩ := run_eq_ok.mp generated
  apply (ofPaths_files_servable accepted options paths).imp
  intro path file found
  obtain ⟨_, _, rfl, fine, _⟩ :=
    (Schema.generatePath_ok_iff accepted options path).mp ⟨file, found⟩
  rw [Schema.name_of_generatePath accepted found]
  exact confined_serviceFile fine

/-- Paths to generate. The second is that of no descriptor, and without their extensions the first
and the third end in nothing and in two dots. -/
def detours : List Text :=
  [".proto", "../secret.proto", "far/...protodevel", "a/b/crossroads"]

theorem files_confined_detours :
    ∃ generation, run Schema.crossroads detours "" = .ok generation ∧
      List.Forall₂ (fun path file => Confined path file.name)
        [".proto", "far/...protodevel", "a/b/crossroads"] generation.files := by
  have read : Options.ofParameter "" = .ok {} := rfl
  have accepted : Schema.ofDescriptors Schema.crossroads =
      .ok (Registry.listing Schema.crossroads).schemaOf := rfl
  have generated : run Schema.crossroads detours "" =
      .ok (ofPaths (Registry.listing Schema.crossroads).schemaOf {} detours) :=
    run_eq_ok.mpr ⟨_, _, read, accepted, rfl⟩
  have served : detours.filter (fun path => Servable Schema.crossroads path) =
      ([".proto", "far/...protodevel", "a/b/crossroads"] : List Text) := by decide
  exact ⟨_, generated, served ▸ files_confined generated⟩

end Generation
end GrpcBindings

import Mathlib
import GrpcBindings.DescriptorSet
import GrpcBindings.Proofs.Disk.FileTree
import GrpcBindings.Proofs.FileNames

/-!
Generation from a set of descriptors, compared with the answer to a request for the same files. The
files of the answer are what is saved, one after the other, so of files with one name the last
remains. If the answer has an error, nothing on the disk is touched and the run ends with that
error.
-/

namespace GrpcBindings

/-- All that a request says of its files together was accepted, so only single files can fail. -/
def Request.Readable (request : Request) : Prop :=
  (∃ options, Options.ofParameter (request.parameter.getD []) = .ok options) ∧
    ∃ schema, Schema.ofDescriptors request.descriptors = .ok schema

theorem Request.readable_iff {request : Request} : request.Readable ↔
    ∃ generation, Generation.run request.descriptors request.filesToGenerate
      (request.parameter.getD []) = .ok generation := by
  simp only [Generation.run_eq_ok]
  constructor
  · rintro ⟨⟨options, read⟩, ⟨schema, accepted⟩⟩
    exact ⟨_, options, schema, read, accepted, rfl⟩
  · rintro ⟨_, options, schema, read, accepted, _⟩
    exact ⟨⟨options, read⟩, ⟨schema, accepted⟩⟩

namespace RunError

/-- The system refused to create a directory or to save a file. -/
inductive Refusal : RunError → Prop where
  | createDirectory (path reason : Text) : Refusal (.createDirectory path reason)
  | save (path reason : Text) : Refusal (.save path reason)

/-- An error that says what the answer to a request says, after a line of its own if it was single
files that failed. -/
structure Tells (error : RunError) (request : Request) (text : Text) : Prop where
  answered : request.respond.error = some text
  headed : error.message = "Generation failed:\n" ++ text ↔ request.Readable
  plain : error.message = text ↔ ¬ request.Readable
  noCause : error.cause? = none

variable {request : Request}

theorem headed_ne (text : Text) : "Generation failed:\n" ++ text ≠ text := by
  rw [ne_eq, List.append_left_eq_self]
  decide

theorem tells_of_incomplete {failures : Text} (answered : request.respond.error = some failures)
    (readable : request.Readable) : (incomplete failures).Tells request failures where
  answered := answered
  headed := iff_of_true rfl readable
  plain := iff_of_false (headed_ne failures) (not_not_intro readable)
  noCause := rfl

theorem tells_of_rejected {error : Error} (answered : request.respond.error = some error.message)
    (unreadable : ¬ request.Readable) : (rejected error).Tells request error.message where
  answered := answered
  headed := iff_of_false (headed_ne error.message).symm unreadable
  plain := iff_of_true rfl unreadable
  noCause := rfl

end RunError

namespace FileTree

variable {α β : Type}

theorem run_bind (first : ExceptT RunError (StateM FileTree) α)
    (next : α → ExceptT RunError (StateM FileTree) β) (tree : FileTree) :
    (first >>= next).run.run tree =
      match first.run.run tree with
      | (.ok a, tree) => (next a).run.run tree
      | (.error error, tree) => (.error error, tree) := by
  rw [ExceptT.run_bind, StateT.run_bind]
  change (match first.run.run tree with | (a, tree) => _) = _
  rcases first.run.run tree with ⟨_ | _, _⟩ <;> rfl

theorem run_attempt (operation : StateM FileTree (Except Text α)) (error : Text → RunError)
    (tree : FileTree) :
    (Exchange.attempt operation error).run.run tree =
      ((operation.run tree).1.mapError error, (operation.run tree).2) := by
  have lifted : (ExceptT.run (liftM operation : ExceptT RunError (StateM FileTree) _)).run tree =
      (.ok (operation.run tree).1, (operation.run tree).2) := rfl
  rw [Exchange.attempt, run_bind, lifted]
  cases (operation.run tree).1 <;> rfl

theorem run_load (path : Text) (tree : FileTree) :
    (disk.load path).run tree = ((tree.load path).mapError Disk.Fault.message, tree) :=
  rfl

theorem run_createDirectories (paths : List Text) (tree : FileTree) :
    (disk.createDirectories paths).run tree =
      ((tree.createDirectories paths).2.mapError Disk.Fault.message,
        (tree.createDirectories paths).1) :=
  rfl

theorem run_save (path : Text) (content : Octets) (tree : FileTree) :
    (disk.save path content).run tree =
      match tree.save path content with
      | .ok tree => (.ok (), tree)
      | .error fault => (.error fault.message, tree) :=
  rfl

end FileTree

namespace DescriptorSet

/-- The request for the files of a generation from a set. -/
def request (descriptors : List FileDescriptor) (parameter : Text) (chosen : List Text) :
    Request where
  filesToGenerate := if chosen.isEmpty then descriptors.map (·.path) else chosen
  parameter := some parameter
  descriptors := descriptors

/-- The files that are generated are those of the answer, if it has no error. -/
theorem generate_cases {decoder : Decoder} {octets : Octets} {descriptors : List FileDescriptor}
    (decoded : decoder octets = .ok descriptors) (setPath parameter : Text) (chosen : List Text) :
    ((request descriptors parameter chosen).respond.error = none ∧
      generate decoder setPath parameter chosen octets =
        .ok (request descriptors parameter chosen).respond.files) ∨
    ∃ error text, generate decoder setPath parameter chosen octets = .error error ∧
      error.Tells (request descriptors parameter chosen) text := by
  let asked := request descriptors parameter chosen
  have readable := asked.readable_iff
  cases ran : Generation.run asked.descriptors asked.filesToGenerate (asked.parameter.getD []) with
  | error error =>
      right
      have generated : generate decoder setPath parameter chosen octets =
          .error (.rejected error) := by
        simp only [asked, request, Option.getD_some] at ran
        simp only [generate, decoded, ran]
      rw [ran] at readable
      have answered : asked.respond.error = some error.message := by rw [Request.respond, ran]
      have unreadable : ¬ asked.Readable := by
        rw [readable]
        rintro ⟨_, ⟨⟩⟩
      exact ⟨_, _, generated, RunError.tells_of_rejected answered unreadable⟩
  | ok generation =>
      rw [ran] at readable
      have answered : asked.respond = .ofGeneration generation := by rw [Request.respond, ran]
      simp only [asked, request, Option.getD_some] at ran
      have reported := Response.ofGeneration_error generation
      rw [← answered] at reported
      cases message : generation.errorMessage? with
      | some failures =>
          right
          rw [message] at reported
          have generated : generate decoder setPath parameter chosen octets =
              .error (.incomplete failures) := by
            simp only [generate, decoded, ran, message]
          exact ⟨_, _, generated, RunError.tells_of_incomplete reported (readable.mpr ⟨_, rfl⟩)⟩
      | none =>
          left
          rw [message] at reported
          have generated : generate decoder setPath parameter chosen octets =
              .ok generation.files := by
            simp only [generate, decoded, ran, message]
          refine ⟨reported, generated.trans ?_⟩
          rw [show request descriptors parameter chosen = asked from rfl, answered,
            Response.ofGeneration, message]

/-- A tree after files were saved below a directory of it. -/
structure Saved (directory : Text) (files : List GeneratedFile) (tree tree' : FileTree) : Prop where
  keepsDirectories : tree.KeepsDirectories tree'
  /-- Of the files with one name the last remains. -/
  loads : ∀ before file after, files = before ++ file :: after →
    (∀ later ∈ after, later.name ≠ file.name) →
    tree'.load (Disk.Path.join directory file.name) = .ok file.content.utf8
  /-- Away from the files nothing is new but directories where there was nothing. -/
  elsewhere : ∀ names,
    (∀ file ∈ files, names ≠ Disk.Path.destination tree.workingDirectory
      (Disk.Path.join directory file.name)) →
    tree.GrownAt tree' names

namespace Saved

variable {directory : Text} {file : GeneratedFile} {files : List GeneratedFile}
variable {tree grown tree' tree'' : FileTree}

/-- What could be loaded from elsewhere can still be loaded. -/
theorem load_elsewhere (saved : Saved directory files tree tree') {path : Text} {content : Octets}
    (apart : ∀ file ∈ files, Disk.Path.destination tree.workingDirectory path ≠
      Disk.Path.destination tree.workingDirectory (Disk.Path.join directory file.name))
    (loaded : tree.load path = .ok content) : tree'.load path = .ok content := by
  obtain ⟨⟨position, located⟩, there⟩ := FileTree.load_eq_ok.mp loaded
  refine FileTree.load_eq_ok.mpr ⟨saved.keepsDirectories.exists_locate located, ?_⟩
  rw [saved.keepsDirectories.workingDirectory, (saved.elsewhere _ apart).file_iff]
  exact there

theorem nil : Saved directory [] tree tree where
  keepsDirectories := (FileTree.Grown.refl tree).keepsDirectories
  loads := by simp
  elsewhere _ _ := .inl rfl

/-- One more file is saved before all others. -/
theorem cons
    (named : ∀ name ∈ (file :: files).map (·.name), ∀ segment ∈ name.pieces '/',
      SchemaPath.IsName segment)
    (grows : tree.Grown grown)
    (stored : grown.save (Disk.Path.join directory file.name) file.content.utf8 = .ok tree')
    (others : Saved directory files tree' tree'') :
    Saved directory (file :: files) tree tree'' := by
  obtain ⟨changed, _⟩ := FileTree.changedAt_of_save stored
  have keeps : tree.KeepsDirectories tree' :=
    grows.keepsDirectories.trans (FileTree.keepsDirectories_of_save stored)
  rw [List.map_cons, List.forall_mem_cons, List.forall_mem_map] at named
  refine ⟨keeps.trans others.keepsDirectories, ?_, ?_⟩
  · intro before last after parts unreplaced
    rcases List.cons_eq_append_iff.mp parts with ⟨rfl, same⟩ | ⟨rest, rfl, remaining⟩
    · cases same
      -- A later file has another name, so what is saved for it is saved elsewhere.
      apply others.load_elsewhere ?_ (FileTree.load_of_save stored)
      intro later member together
      exact unreplaced later member
        (Disk.Path.eq_of_destination_eq named.1 (named.2 later member) together).symm
    · exact others.loads rest last after remaining unreplaced
  · intro names apart
    rw [List.forall_mem_cons] at apart
    have first : tree.GrownAt tree' names := by
      unfold FileTree.GrownAt
      rw [changed.kind?, grows.workingDirectory, if_neg apart.1]
      exact grows.everywhere names
    apply first.trans (others.elsewhere names ?_)
    rw [keeps.workingDirectory]
    exact apart.2

end Saved

/-- Unless the system refuses, directories are created and the file is saved. -/
theorem run_saveBelow (directory : Text) (file : GeneratedFile) (tree : FileTree) :
    (∃ grown saved, tree.Grown grown ∧
      grown.save (Disk.Path.join directory file.name) file.content.utf8 = .ok saved ∧
      (saveBelow FileTree.disk directory file).run.run tree =
        (.ok (Disk.Path.join directory file.name), saved)) ∨
    ∃ error outcome, error.Refusal ∧
      (saveBelow FileTree.disk directory file).run.run tree = (.error error, outcome) := by
  have grows := tree.grown_createDirectories
    (Disk.Path.ancestors (Disk.Path.join directory file.name))
  rw [saveBelow, FileTree.run_bind, FileTree.run_attempt, FileTree.run_createDirectories]
  rcases created : tree.createDirectories
    (Disk.Path.ancestors (Disk.Path.join directory file.name)) with ⟨grown, fault | _⟩
  · exact .inr ⟨_, _, .createDirectory _ _, rfl⟩
  · rw [created] at grows
    simp only [Except.mapError]
    rw [FileTree.run_bind, FileTree.run_attempt, FileTree.run_save]
    cases stored : grown.save (Disk.Path.join directory file.name) file.content.utf8 with
    | error fault => exact .inr ⟨_, _, .save _ _, rfl⟩
    | ok saved => exact .inl ⟨grown, saved, grows, stored, rfl⟩

/-- Unless the system refuses, all files are saved. -/
theorem run_mapM_saveBelow (directory : Text) (files : List GeneratedFile)
    (named : ∀ name ∈ files.map (·.name), ∀ segment ∈ name.pieces '/', SchemaPath.IsName segment)
    (tree : FileTree) :
    (∃ tree', Saved directory files tree tree' ∧
      (files.mapM (saveBelow FileTree.disk directory)).run.run tree =
        (.ok (files.map fun file => Disk.Path.join directory file.name), tree')) ∨
    ∃ error outcome, error.Refusal ∧
      (files.mapM (saveBelow FileTree.disk directory)).run.run tree = (.error error, outcome) := by
  induction files generalizing tree with
  | nil => exact .inl ⟨tree, .nil, rfl⟩
  | cons file rest ih =>
      have others := (List.forall_mem_cons.mp named).2
      rw [List.mapM_cons, FileTree.run_bind]
      rcases run_saveBelow directory file tree with
        ⟨grown, saved, grows, stored, ran⟩ | ⟨error, outcome, refusal, ran⟩
      · rw [ran]
        simp only [FileTree.run_bind]
        rcases ih others saved with
          ⟨tree', finished, ranOthers⟩ | ⟨error, outcome, refusal, ranOthers⟩
        · rw [ranOthers]
          exact .inl ⟨tree', .cons named grows stored finished, rfl⟩
        · rw [ranOthers]
          exact .inr ⟨error, outcome, refusal, rfl⟩
      · rw [ran]
        exact .inr ⟨error, outcome, refusal, rfl⟩

/-- Nothing is saved before all files are generated. -/
theorem run_of_loaded {tree : FileTree} {setPath : Text} {octets : Octets}
    (loaded : tree.load setPath = .ok octets) (directory parameter : Text) (chosen : List Text)
    (decoder : Decoder) :
    (run FileTree.disk setPath directory parameter chosen decoder).run.run tree =
      match generate decoder setPath parameter chosen octets with
      | .ok files => (files.mapM (saveBelow FileTree.disk directory)).run.run tree
      | .error error => (.error error, tree) := by
  rw [run, FileTree.run_bind, FileTree.run_attempt, FileTree.run_load, loaded]
  simp only [Except.mapError]
  rw [FileTree.run_bind]
  cases generate decoder setPath parameter chosen octets <;> rfl

/-- How a run into a directory ends, compared with the answer to a request for the same files. -/
structure Agrees (request : Request) (directory : Text) (tree : FileTree)
    (result : Except RunError (List Text)) (tree' : FileTree) : Prop where
  succeeds : (∃ paths, result = .ok paths) ↔ request.respond.error = none
  paths : ∀ paths, result = .ok paths →
    paths = request.respond.files.map fun file => Disk.Path.join directory file.name
  saved : ∀ paths, result = .ok paths → Saved directory request.respond.files tree tree'
  untouched : ∀ error, result = .error error → tree' = tree
  told : ∀ error, result = .error error → ∃ text, error.Tells request text

/-- A set that can be read is served as a request is, as long as the system refuses nothing. How it
is encoded makes no difference. -/
theorem run_agrees {decoder : Decoder} {tree : FileTree} {setPath : Text} {octets : Octets}
    {descriptors : List FileDescriptor} (loaded : tree.load setPath = .ok octets)
    (decoded : decoder octets = .ok descriptors) (directory parameter : Text) (chosen : List Text)
    (unrefused : ∀ error,
      ((run FileTree.disk setPath directory parameter chosen decoder).run.run tree).1 =
        .error error → ¬ error.Refusal) :
    Agrees (request descriptors parameter chosen) directory tree
      ((run FileTree.disk setPath directory parameter chosen decoder).run.run tree).1
      ((run FileTree.disk setPath directory parameter chosen decoder).run.run tree).2 := by
  have ran := run_of_loaded loaded directory parameter chosen decoder
  rcases generate_cases decoded setPath parameter chosen with
    ⟨answered, generated⟩ | ⟨error, text, generated, tells⟩
  · simp only [generated] at ran
    rcases run_mapM_saveBelow directory _ (Request.respond_isName answered) tree with
      ⟨tree', saved, finished⟩ | ⟨error, outcome, refusal, stopped⟩
    · rw [ran, finished]
      exact {
        succeeds := iff_of_true ⟨_, rfl⟩ answered
        paths := fun _ same => (Except.ok.inj same).symm
        saved := fun _ _ => saved
        untouched := nofun
        told := nofun
      }
    · rw [ran, stopped] at unrefused
      exact absurd refusal (unrefused error rfl)
  · simp only [generated] at ran
    rw [ran]
    exact {
      succeeds := iff_of_false nofun (by rw [tells.answered]; nofun)
      paths := nofun
      saved := nofun
      untouched := fun _ _ => rfl
      told := fun _ same => ⟨text, Except.error.inj same ▸ tells⟩
    }

/-- A set of two descriptors, whose files share a name. -/
def siblingSet : Octets :=
  Wire.encodeOctets 1
    (Wire.encodeText 1 "greet/hello.proto" ++ Wire.encodeOctets 4 (Wire.encodeText 1 "Hello")) ++
  Wire.encodeOctets 1
    (Wire.encodeText 1 "greet/hello.protodevel" ++ Wire.encodeText 3 "greet/hello.proto" ++
      Wire.encodeOctets 4 (Wire.encodeText 1 "Draft"))

def siblingTree : FileTree where
  root := [("siblings", .file siblingSet), ("out", .directory [("notes", .file [])])]

theorem run_agrees_siblingTree :
    siblingTree.load "siblings" = .ok siblingSet ∧
      decode siblingSet = .ok Request.siblings.descriptors ∧
      (∀ error, ((run FileTree.disk "siblings" "out" "" []).run.run siblingTree).1 = .error error →
        ¬ error.Refusal) ∧
      Agrees (request Request.siblings.descriptors "" []) "out" siblingTree
        ((run FileTree.disk "siblings" "out" "" []).run.run siblingTree).1
        ((run FileTree.disk "siblings" "out" "" []).run.run siblingTree).2 := by
  have loaded : siblingTree.load "siblings" = .ok siblingSet := by decide +kernel
  have decoded : decode siblingSet = .ok Request.siblings.descriptors := by cbv
  have finished : ((run FileTree.disk "siblings" "out" "" []).run.run siblingTree).1 =
      .ok (["out/greet/hello_grpc_pb.ts", "out/greet/hello_grpc_pb.ts"] : List Text) := by
    decide +kernel
  have unrefused (error : RunError)
      (failed : ((run FileTree.disk "siblings" "out" "" []).run.run siblingTree).1 =
        .error error) : ¬ error.Refusal := by
    rw [finished] at failed
    cases failed
  exact ⟨loaded, decoded, unrefused, run_agrees loaded decoded "out" "" [] unrefused⟩

end DescriptorSet
end GrpcBindings

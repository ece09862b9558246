import GrpcBindings.Proofs.Generation
import GrpcBindings.Response

/-!
Answers to requests. A request is answered with all the files it asks for or with an error and no
file, and the error tells of every file that cannot be generated, whatever the others are.
-/

namespace GrpcBindings

theorem Error.message_ne_nil (error : Error) : error.message ≠ [] := by
  cases error <;> simp [message, Text.ofString]

theorem FileFailure.line_ne_nil (failure : FileFailure) : failure.line ≠ [] :=
  List.append_ne_nil_of_right_ne_nil _ failure.error.message_ne_nil

theorem Text.join_cons_ne_nil (sep : Text) {first : Text} (rest : List Text)
    (notEmpty : first ≠ []) :
    join sep (first :: rest) ≠ [] := by
  cases rest with
  | nil => exact notEmpty
  | cons second more =>
      change first ++ sep ++ join sep (second :: more) ≠ []
      rw [List.append_assoc]
      exact List.append_ne_nil_of_left_ne_nil notEmpty _

theorem Generation.errorMessage?_ne_nil (generation : Generation) :
    generation.errorMessage? ≠ some [] := by
  intro empty
  cases failures : generation.failures with
  | nil =>
      rw [errorMessage?_eq_none.mpr failures] at empty
      cases empty
  | cons first rest =>
      rw [errorMessage?_of_failures (by simp [failures]), failures] at empty
      exact Text.join_cons_ne_nil _ _ first.line_ne_nil (Option.some.inj empty)

theorem Response.ofGeneration_error (generation : Generation) :
    (ofGeneration generation).error = generation.errorMessage? := by
  rw [ofGeneration]
  cases generation.errorMessage? <;> rfl

namespace Request

/-- Nothing that a request brings is refused. -/
structure Accepted (request : Request) : Prop where
  parameter : ∃ options, Options.ofParameter (request.parameter.getD []) = .ok options
  descriptors : ∃ schema, Schema.ofDescriptors request.descriptors = .ok schema
  servable : ∀ path ∈ request.filesToGenerate, Servable request.descriptors path

/-- The request for one file with all else as it is. -/
def only (request : Request) (path : Text) : Request :=
  { request with filesToGenerate := [path] }

section Responding

variable {request : Request} {options : Options} {schema : Schema}

theorem respond_of_parameter_refused {error : Error}
    (refused : Options.ofParameter (request.parameter.getD []) = .error error) :
    request.respond = { error := some error.message, files := [] } := by
  rw [respond, Generation.run, refused]
  rfl

theorem respond_of_descriptors_refused {error : Error}
    (read : Options.ofParameter (request.parameter.getD []) = .ok options)
    (refused : Schema.ofDescriptors request.descriptors = .error error) :
    request.respond = { error := some error.message, files := [] } := by
  rw [respond, Generation.run, read, refused]
  rfl

theorem respond_of_accepted
    (read : Options.ofParameter (request.parameter.getD []) = .ok options)
    (accepted : Schema.ofDescriptors request.descriptors = .ok schema) :
    request.respond = .ofGeneration (.ofPaths schema options request.filesToGenerate) := by
  rw [respond, Generation.run, read, accepted]
  rfl

/-- Without an error the parameter and the descriptors were accepted. -/
theorem exists_of_respond (succeeds : request.respond.error = none) :
    ∃ options schema, Options.ofParameter (request.parameter.getD []) = .ok options ∧
      Schema.ofDescriptors request.descriptors = .ok schema := by
  cases read : Options.ofParameter (request.parameter.getD []) with
  | error error =>
      rw [respond_of_parameter_refused read] at succeeds
      cases succeeds
  | ok options =>
      cases accepted : Schema.ofDescriptors request.descriptors with
      | error error =>
          rw [respond_of_descriptors_refused read accepted] at succeeds
          cases succeeds
      | ok schema => exact ⟨options, schema, rfl, rfl⟩

theorem respond_error_iff
    (read : Options.ofParameter (request.parameter.getD []) = .ok options)
    (accepted : Schema.ofDescriptors request.descriptors = .ok schema) :
    request.respond.error = none ↔
      ∀ path ∈ request.filesToGenerate, Servable request.descriptors path := by
  rw [respond_of_accepted read accepted, Response.ofGeneration_error,
    Generation.errorMessage?_eq_none, Generation.ofPaths_failures_eq_nil]
  simp only [Schema.generatePath_ok_iff accepted]

theorem respond_error_none_iff : request.respond.error = none ↔ request.Accepted := by
  constructor
  · intro succeeds
    obtain ⟨options, schema, read, accepted⟩ := exists_of_respond succeeds
    exact ⟨⟨options, read⟩, ⟨schema, accepted⟩, (respond_error_iff read accepted).mp succeeds⟩
  · rintro ⟨⟨options, read⟩, ⟨schema, accepted⟩, servable⟩
    exact (respond_error_iff read accepted).mpr servable

theorem respond_files
    (read : Options.ofParameter (request.parameter.getD []) = .ok options)
    (accepted : Schema.ofDescriptors request.descriptors = .ok schema)
    (succeeds : request.respond.error = none) :
    List.Forall₂ (fun path file => schema.generatePath path options = .ok file)
      request.filesToGenerate request.respond.files := by
  have servable := (respond_error_iff read accepted).mp succeeds
  rw [respond_of_accepted read accepted] at succeeds ⊢
  rw [Response.ofGeneration_error] at succeeds
  rw [Response.ofGeneration, succeeds]
  apply Generation.ofPaths_files
  intro path member
  exact (Schema.generatePath_ok_iff accepted options path).mpr (servable path member)

theorem respond_only
    (read : Options.ofParameter (request.parameter.getD []) = .ok options)
    (accepted : Schema.ofDescriptors request.descriptors = .ok schema) {path : Text}
    {file : GeneratedFile} (generated : schema.generatePath path options = .ok file) :
    (request.only path).respond = { error := none, files := [file] } := by
  have answer : (request.only path).respond = _ := respond_of_accepted read accepted
  rw [answer]
  simp only [only, Generation.ofPaths, generated]
  rfl

/-- An error comes with no file, and it is not empty. -/
theorem respond_of_error (failed : request.respond.error ≠ none) :
    request.respond.files = [] ∧ request.respond.error ≠ some [] := by
  cases run : Generation.run request.descriptors request.filesToGenerate
      (request.parameter.getD []) with
  | error error =>
      rw [respond, run]
      exact ⟨rfl, fun empty => error.message_ne_nil (Option.some.inj empty)⟩
  | ok generation =>
      rw [respond, run] at failed ⊢
      refine ⟨?_, Response.ofGeneration_error generation ▸ generation.errorMessage?_ne_nil⟩
      cases message : generation.errorMessage? with
      | none => exact absurd ((Response.ofGeneration_error generation).trans message) failed
      | some _ => simp only [Response.ofGeneration, message]

theorem respond_failures
    (read : Options.ofParameter (request.parameter.getD []) = .ok options)
    (accepted : Schema.ofDescriptors request.descriptors = .ok schema)
    (failed : request.respond.error ≠ none) :
    request.respond.error = some (Text.join "\n"
      ((Generation.ofPaths schema options request.filesToGenerate).failures.map (·.line))) := by
  rw [respond_of_accepted read accepted, Response.ofGeneration_error] at failed ⊢
  exact Generation.errorMessage?_of_failures (mt Generation.errorMessage?_eq_none.mpr failed)

end Responding
end Request

/-- How a response answers a request: with everything that was asked for, or with the reasons why
there is nothing. -/
structure Response.Answers (request : Request) (response : Response) : Prop where
  succeeds : response.error = none ↔ request.Accepted
  files : response.error = none → ∃ options schema,
    Options.ofParameter (request.parameter.getD []) = .ok options ∧
    Schema.ofDescriptors request.descriptors = .ok schema ∧
    List.Forall₂ (fun path file => file.name = SchemaPath.serviceFile path ∧
        schema.generatePath path options = .ok file ∧
        (request.only path).respond = { error := none, files := [file] })
      request.filesToGenerate response.files
  refused : response.error ≠ none → response.files = [] ∧ response.error ≠ some []
  /-- The failures are those of the paths that cannot be served, each as it fails alone. -/
  failures : ∀ options schema, response.error ≠ none →
    Options.ofParameter (request.parameter.getD []) = .ok options →
    Schema.ofDescriptors request.descriptors = .ok schema →
    ∃ failures : List FileFailure,
      failures.map (·.file) =
        request.filesToGenerate.filter (fun path => ¬ Servable request.descriptors path) ∧
      (∀ failure ∈ failures, schema.generatePath failure.file options = .error failure.error) ∧
      response.error = some (Text.join "\n" (failures.map fun failure =>
        failure.file ++ ": " ++ failure.error.message))

namespace Request

theorem respond_answers (request : Request) : request.respond.Answers request := by
  refine ⟨respond_error_none_iff, ?_, respond_of_error, ?_⟩
  · intro succeeds
    obtain ⟨options, schema, read, accepted⟩ := exists_of_respond succeeds
    refine ⟨options, schema, read, accepted, ?_⟩
    apply (respond_files read accepted succeeds).imp
    intro path file generated
    exact ⟨Schema.name_of_generatePath accepted generated, generated,
      respond_only read accepted generated⟩
  · intro options schema failed read accepted
    obtain ⟨files, each⟩ :=
      Generation.ofPaths_failures options request.filesToGenerate accepted
    exact ⟨_, files, each, respond_failures read accepted failed⟩

end Request
end GrpcBindings

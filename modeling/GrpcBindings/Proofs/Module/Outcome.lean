import GrpcBindings.Module
import GrpcBindings.Proofs.ImportBlock
import GrpcBindings.Proofs.MessageReference
import GrpcBindings.Proofs.Printing

/-!
How the module of a file of an accepted schema is written to a sink without a limit. It is written
to the end unless the path of the file or of a dependency is not accepted. What is then in the sink
is nothing or the header, and otherwise the stages one after another, each as it is printed alone.
-/

namespace GrpcBindings
namespace Module

variable {schema : Schema} {file : SchemaFile} {options : Options}

theorem prints_header :
    Prints (printStage schema file options .header) (.ok ()) (Item.rendering (header file)) :=
  Item.prints_printAll (header file)

theorem prints_imports {imports : List Item}
    (found : schema.importBlock file options = .ok imports) :
    Prints (printStage schema file options .imports) (.ok ()) (Item.rendering imports ++ "\n") := by
  apply Prints.lift_bind found
  exact Prints.bind (Item.prints_printAll imports) (Item.prints_print .blank)

theorem prints_imports_error {error : Error}
    (failed : schema.importBlock file options = .error error) :
    Prints (printStage schema file options .imports) (.error error) [] :=
  Prints.lift_bind_error _ failed

/-- Items that are made for each of a list of things are printed list by list. -/
theorem prints_each {α : Type} (make : α → Except Error (List Item)) (xs : List α)
    {made : List (List Item)} (found : xs.mapM make = .ok made) :
    Prints (xs.forM fun x => do Item.printAll (← make x)) (.ok ())
      (made.flatMap Item.rendering) := by
  have related := forall₂_of_mapM found
  clear found
  induction related with
  | nil => exact Prints.pure ()
  | cons first _ ih =>
      rw [List.forM_eq_forM, List.forM_cons, List.flatMap_cons]
      apply Prints.bind (Prints.lift_bind first (Item.prints_printAll _))
      rw [← List.forM_eq_forM]
      exact ih

/-- The stages that print anything come one after another. -/
theorem stages_forM (action : Stage → Printing Unit) (start : action .start = pure ())
    (done : action .done = pure ()) :
    Stage.all.forM action = (do
      action .header
      action .imports
      action .messageBindings
      action .serviceContracts) := by
  rw [show Stage.all = [.start, .header, .imports, .messageBindings, .serviceContracts, .done]
    from rfl]
  simp only [List.forM_eq_forM, List.forM_cons, List.forM_nil, start, done, pure_bind,
    bind_pure_unit]

variable {id : FileId}

theorem print_eq (schema : Schema) (id : FileId) (options : Options) :
    print schema id options = (do
      liftM (SchemaPath.check (schema.file id).path)
      printStage schema (schema.file id) options .header
      printStage schema (schema.file id) options .imports
      printStage schema (schema.file id) options .messageBindings
      printStage schema (schema.file id) options .serviceContracts) := by
  rw [print, stages_forM _ rfl rfl]

theorem prints_rejected_path {error : Error}
    (rejected : SchemaPath.check (schema.file id).path = .error error) :
    Prints (print schema id options) (.error error) [] := by
  rw [print_eq]
  exact Prints.lift_bind_error _ rejected

theorem prints_rejected_import {error : Error}
    (fine : SchemaPath.check (schema.file id).path = .ok ())
    (failed : schema.importBlock (schema.file id) options = .error error) :
    Prints (print schema id options) (.error error) (Item.rendering (header (schema.file id))) := by
  rw [print_eq, ← List.append_nil (Item.rendering _)]
  apply Prints.lift_bind fine
  apply Prints.bind prints_header
  exact Prints.bind_error _ (prints_imports_error failed)

theorem prints_complete {imports : List Item} {bindings contracts : List (List Item)}
    (fine : SchemaPath.check (schema.file id).path = .ok ())
    (imported : schema.importBlock (schema.file id) options = .ok imports)
    (bound : (schema.reachableMessages (schema.file id)).mapM schema.messageBindings = .ok bindings)
    (contracted : (schema.file id).services.mapM schema.serviceContract = .ok contracts) :
    Prints (print schema id options) (.ok ())
      (Item.rendering (header (schema.file id)) ++ Item.rendering imports ++ "\n" ++
        bindings.flatMap Item.rendering ++ contracts.flatMap Item.rendering) := by
  rw [print_eq]
  simp only [List.append_assoc]
  apply Prints.lift_bind fine
  apply Prints.bind prints_header
  rw [← List.append_assoc]
  apply Prints.bind (prints_imports imported)
  apply Prints.bind (prints_each _ _ bound)
  exact prints_each _ _ contracted

/-- Writing is printing with nothing begun. -/
theorem write_of_prints {result : Except Error Unit} {t : Text}
    (prints : Prints (print schema id options) result t) {sink : Sink}
    (unlimited : sink.room = none) :
    write schema id options sink = (result, sink.add t none) := by
  rw [write, prints sink unlimited]
  rfl

variable {descriptors : List FileDescriptor} {sink : Sink}

theorem write_rejected_path {error : Error}
    (rejected : SchemaPath.check (schema.file id).path = .error error)
    (unlimited : sink.room = none) : write schema id options sink = (.error error, sink) := by
  rw [write_of_prints (prints_rejected_path rejected) unlimited, Sink.add_nil sink unlimited]

theorem write_rejected_import {error : Error}
    (fine : SchemaPath.check (schema.file id).path = .ok ())
    (failed : schema.importBlock (schema.file id) options = .error error)
    (unlimited : sink.room = none) :
    write schema id options sink =
      (.error error, sink.add (Item.rendering (header (schema.file id))) none) :=
  write_of_prints (prints_rejected_import fine failed) unlimited

theorem write_complete (accepted : Schema.ofDescriptors descriptors = .ok schema)
    (known : id.index < schema.files.length) (options : Options)
    (fine : SchemaPath.check (schema.file id).path = .ok ())
    (dependencies : ∀ dependency ∈ (schema.file id).dependencies,
      SchemaPath.check (schema.file dependency).path = .ok ())
    (unlimited : sink.room = none) :
    ∃ imports bindings contracts,
      schema.importBlock (schema.file id) options = .ok imports ∧
      (schema.reachableMessages (schema.file id)).mapM schema.messageBindings = .ok bindings ∧
      (schema.file id).services.mapM schema.serviceContract = .ok contracts ∧
      write schema id options sink = (.ok (), sink.add
        (Item.rendering (header (schema.file id)) ++ Item.rendering imports ++ "\n" ++
          bindings.flatMap Item.rendering ++ contracts.flatMap Item.rendering) none) := by
  have imported := schema.importBlock_of_fine (schema.file id) options dependencies
  obtain ⟨bindings, bound⟩ := exists_mapM_ok (schema.reachableMessages (schema.file id))
    fun _ reachable => Schema.messageBindings_of_reachable accepted known reachable
  obtain ⟨contracts, contracted⟩ := exists_mapM_ok (schema.file id).services
    fun _ member => Schema.serviceContract_of_service accepted known member
  exact ⟨_, bindings, contracts, imported, bound, contracted,
    write_of_prints (prints_complete fine imported bound contracted) unlimited⟩

theorem write_ok_iff (accepted : Schema.ofDescriptors descriptors = .ok schema)
    (known : id.index < schema.files.length) (options : Options) (unlimited : sink.room = none) :
    (write schema id options sink).1 = .ok () ↔
      SchemaPath.check (schema.file id).path = .ok () ∧
        ∀ dependency ∈ (schema.file id).dependencies,
          SchemaPath.check (schema.file dependency).path = .ok () := by
  constructor
  · intro succeeds
    cases own : SchemaPath.check (schema.file id).path with
    | error error =>
        rw [write_rejected_path own unlimited] at succeeds
        cases succeeds
    | ok _ =>
        refine ⟨rfl, ?_⟩
        cases block : schema.importBlock (schema.file id) options with
        | error error =>
            rw [write_rejected_import own block unlimited] at succeeds
            cases succeeds
        | ok imports =>
            rw [Schema.importBlock_eq, firstFault_eq_ok, Schema.importFaults_eq_nil] at block
            exact block.1
  · rintro ⟨fine, dependencies⟩
    obtain ⟨_, _, _, _, _, _, written⟩ :=
      write_complete accepted known options fine dependencies unlimited
    rw [written]

/-- Whatever the sink, no message is found outside the package of its file. -/
theorem write_not_mismatched (accepted : Schema.ofDescriptors descriptors = .ok schema)
    (known : id.index < schema.files.length) (sink : Sink) (message package : Text) :
    (write schema id options sink).1 ≠ .error (.packageMismatch message package) := by
  let possible (error : Error) : Prop := error ≠ .packageMismatch message package
  have format : possible .format := Error.noConfusion
  have invalidPath (path reason : Text) : possible (.invalidPath path reason) := Error.noConfusion
  have path : FailsOnlyBy possible (liftM (SchemaPath.check (schema.file id).path)) := by
    apply FailsOnlyBy.lift
    intro error rejected
    obtain ⟨reason, rfl⟩ := SchemaPath.invalidPath_of_check rejected
    exact invalidPath _ reason
  have imports : FailsOnlyBy possible (printStage schema (schema.file id) options .imports) := by
    refine .bind (.lift ?_) fun items =>
      .bind (.printAll format items) fun _ => .document format Item.blank.layout
    intro error failed
    obtain ⟨path, reason, rfl⟩ := Schema.invalidPath_of_importBlock failed
    exact invalidPath path reason
  have bindings :
      FailsOnlyBy possible (printStage schema (schema.file id) options .messageBindings) := by
    refine .forM _ fun message reachable => .bind (.lift_ok ?_) (FailsOnlyBy.printAll format)
    exact Schema.messageBindings_of_reachable accepted known reachable
  have contracts :
      FailsOnlyBy possible (printStage schema (schema.file id) options .serviceContracts) := by
    refine .forM _ fun service member => .bind (.lift_ok ?_) (FailsOnlyBy.printAll format)
    exact Schema.serviceContract_of_service accepted known member
  have whole : FailsOnlyBy possible (print schema id options) := by
    rw [print_eq]
    exact .bind path fun _ => .bind (.printAll format _) fun _ => .bind imports fun _ =>
      .bind bindings fun _ => contracts
  intro mismatched
  exact whole (.ofSink sink) _ mismatched rfl

/-- What becomes of the module of a file on a sink without a limit. -/
structure Outcome (schema : Schema) (file : SchemaFile) (options : Options) (sink : Sink)
    (run : Except Error Unit × Sink) : Prop where
  succeeds : run.1 = .ok () ↔ SchemaPath.check file.path = .ok () ∧
    ∀ dependency ∈ file.dependencies, SchemaPath.check (schema.file dependency).path = .ok ()
  /-- If the path of the file is not accepted, nothing is written. -/
  rejectedPath : ∀ error, SchemaPath.check file.path = .error error →
    (∃ reason, error = .invalidPath file.path reason) ∧ run = (.error error, sink)
  /-- Otherwise the first dependency whose path is not accepted ends the module at its header. -/
  rejectedDependency : ∀ before dependency after error,
    SchemaPath.check file.path = .ok () →
    file.dependencies = before ++ dependency :: after →
    (∀ earlier ∈ before, SchemaPath.check (schema.file earlier).path = .ok ()) →
    SchemaPath.check (schema.file dependency).path = .error error →
    (∃ reason, error = .invalidPath (schema.file dependency).path reason) ∧
      run.1 = .error error ∧ run.2.written = sink.written ++ Item.rendering (header file)
  complete : run.1 = .ok () → ∃ imports bindings contracts,
    schema.importBlock file options = .ok imports ∧
    (schema.reachableMessages file).mapM schema.messageBindings = .ok bindings ∧
    file.services.mapM schema.serviceContract = .ok contracts ∧
    run.2.written = sink.written ++ Item.rendering (header file) ++ Item.rendering imports ++
      "\n" ++ bindings.flatMap Item.rendering ++ contracts.flatMap Item.rendering

/-- The module of every file of an accepted schema has this outcome. Every message of the schema
has an object path, so even a sink with a limit sees no mismatch of packages. -/
theorem write_outcome_of_accepted (accepted : Schema.ofDescriptors descriptors = .ok schema)
    (known : id.index < schema.files.length) (options : Options) :
    (∀ sink, sink.room = none →
      Outcome schema (schema.file id) options sink (write schema id options sink)) ∧
    (∀ message : MessageId, message.index < schema.messages.length →
      ∃ path, objectPath (schema.message message).fullName
        (schema.ownerOf (schema.message message)).path
        (schema.ownerOf (schema.message message)).package = .ok path) ∧
    ∀ sink message package,
      (write schema id options sink).1 ≠ .error (.packageMismatch message package) := by
  refine ⟨?_, ?_, ?_⟩
  · intro sink unlimited
    refine ⟨write_ok_iff accepted known options unlimited, ?_, ?_, ?_⟩
    · intro error rejected
      exact ⟨SchemaPath.invalidPath_of_check rejected, write_rejected_path rejected unlimited⟩
    · intro before dependency after error fine split earlier rejected
      have failed := schema.importBlock_of_rejected (schema.file id) options split earlier rejected
      rw [write_rejected_import fine failed unlimited]
      exact ⟨SchemaPath.invalidPath_of_check rejected, rfl, Sink.written_add sink _ none⟩
    · intro succeeds
      obtain ⟨fine, dependencies⟩ := (write_ok_iff accepted known options unlimited).mp succeeds
      obtain ⟨imports, bindings, contracts, imported, bound, contracted, written⟩ :=
        write_complete accepted known options fine dependencies unlimited
      refine ⟨imports, bindings, contracts, imported, bound, contracted, ?_⟩
      rw [written, Sink.written_add]
      simp only [List.append_assoc]
  · intro message inRange
    obtain ⟨name, found⟩ := Schema.objectPath_of_known accepted inRange
    exact ⟨_, found⟩
  · exact write_not_mismatched accepted known

/-- One file declares a message inside another, and the service of a second file exchanges both. -/
def deliveries : List FileDescriptor :=
  [
    {
      name := some "shop/parcel.proto", package := some "shop", dependencies := []
      messages := [.mk (some "Parcel") [.mk (some "Label") []]]
      services := [], locations := none
    },
    {
      name := some "delivery.proto", package := none, dependencies := ["shop/parcel.proto"]
      messages := []
      services :=
        [
          {
            name := some "Delivery"
            methods :=
              [
                {
                  name := some "Send", input := some ".shop.Parcel"
                  output := some ".shop.Parcel.Label", clientStreaming := none
                  serverStreaming := none
                }
              ]
          }
        ]
      locations := none
    }
  ]

theorem write_outcome_of_deliveries :
    ∃ schema, Schema.ofDescriptors deliveries = .ok schema ∧ 1 < schema.files.length ∧
      Outcome schema (schema.file ⟨1⟩) {} {} (write schema ⟨1⟩ {} {}) := by
  have accepted : Schema.ofDescriptors deliveries = .ok (Registry.listing deliveries).schemaOf := by
    rfl
  have known : 1 < (Registry.listing deliveries).schemaOf.files.length := by decide
  exact ⟨_, accepted, known, (write_outcome_of_accepted accepted known {}).1 {} rfl⟩

end Module
end GrpcBindings

import GrpcBindings.Proofs.CodeLines
import GrpcBindings.Proofs.Module.Outcome
import GrpcBindings.Proofs.Schema.Uncommented

/-!
What source comments have no influence on. A module loses no line of code with its comments, and
keeps its name and its reason to fail. So descriptors that differ in nothing but comments become
modules with the same code.
-/

namespace GrpcBindings

def MethodContract.uncommented (contract : MethodContract) : MethodContract :=
  { contract with method := contract.method.uncommented }

namespace Schema

variable (schema : Schema)

theorem reference_uncommented (id : MessageId) :
    schema.uncommented.reference id = schema.reference id := by
  have owner : schema.uncommented.ownerOf (schema.uncommented.message id) =
      (schema.ownerOf (schema.message id)).uncommented :=
    schema.file_uncommented _
  rw [reference, reference, owner]
  rfl

theorem messageBindings_uncommented (id : MessageId) :
    schema.uncommented.messageBindings id = schema.messageBindings id := by
  rw [messageBindings, messageBindings, reference_uncommented]

theorem importBlock_uncommented (file : SchemaFile) (options : Options) :
    schema.uncommented.importBlock file.uncommented options = schema.importBlock file options := by
  have dependency : schema.uncommented.dependencyImport file.uncommented =
      schema.dependencyImport file := by
    funext id
    rw [dependencyImport, dependencyImport, file_uncommented]
    rfl
  rw [importBlock, importBlock, dependency]
  rfl

theorem reachableMessages_uncommented (file : SchemaFile) :
    schema.uncommented.reachableMessages file.uncommented = schema.reachableMessages file := by
  have exchanged : exchangedMessages file.uncommented = exchangedMessages file := by
    simp only [exchangedMessages, SchemaFile.uncommented, Service.uncommented, List.flatMap_assoc,
      List.flatMap_map]
    rfl
  rw [reachableMessages, reachableMessages, exchanged]
  rfl

end Schema

namespace MethodContract

theorem ofMethod_uncommented (schema : Schema) (method : Method) :
    ofMethod schema.uncommented method.uncommented = (ofMethod schema method).map uncommented := by
  rw [ofMethod, ofMethod, Schema.reference_uncommented, Schema.reference_uncommented]
  simp only [Method.uncommented]
  cases schema.reference method.input with
  | error _ => rfl
  | ok _ => cases schema.reference method.output <;> rfl

variable (contract : MethodContract)

/-- A comment is no code. -/
theorem code_comment (side : CommentSide) : (contract.comment side).flatMap (·.code) = [] := by
  rw [comment]
  split
  · rfl
  · rw [List.flatMap_singleton]
    exact code_commentBlock _ _ _ 1

theorem code_handlerMembers :
    contract.uncommented.handlerMembers.flatMap (·.code) =
      contract.handlerMembers.flatMap (·.code) := by
  simp only [handlerMembers, List.flatMap_append, List.flatMap_cons, code_comment]
  rfl

theorem code_clientMembers :
    contract.uncommented.clientMembers.flatMap (·.code) =
      contract.clientMembers.flatMap (·.code) := by
  simp only [clientMembers, List.flatMap_append, code_comment]
  rfl

theorem code_promiseMembers :
    contract.uncommented.promiseMembers.flatMap (·.code) =
      contract.promiseMembers.flatMap (·.code) := by
  rw [promiseMembers, promiseMembers, uncommented, Method.uncommented]
  cases contract.method.mode with
  | unary =>
      simp only [List.flatMap_append, code_comment]
      rfl
  | clientStreaming | serverStreaming | bidirectional => rfl

end MethodContract

namespace ServiceContract

theorem code_comment (service : Service) : (comment service).flatMap (·.code) = [] := by
  rw [comment]
  split
  · rfl
  · rw [List.flatMap_singleton]
    exact code_commentBlock _ _ _ 0

theorem code_interface_uncommented {members : MethodContract → List Member}
    (each : ∀ contract : MethodContract,
      (members contract.uncommented).flatMap (·.code) = (members contract).flatMap (·.code))
    (name : Text) (extended : Option Text) (methods : List MethodContract) :
    (Item.interface name extended ((methods.map .uncommented).flatMap members)).code =
      (Item.interface name extended (methods.flatMap members)).code := by
  apply Item.code_interface_congr
  rw [List.flatMap_map, List.flatMap_assoc, List.flatMap_assoc]
  exact List.flatMap_congr fun contract _ => each contract

/-- Of the items of a service only its comments and its interfaces depend on comments, and what they
have of code does not. -/
theorem code_items (service : Service) (methods : List MethodContract) :
    (items service.uncommented (methods.map .uncommented)).flatMap (·.code) =
      (items service methods).flatMap (·.code) := by
  have table : table service.uncommented (methods.map .uncommented) = table service methods := by
    rw [ServiceContract.table, List.map_map]
    rfl
  have implementation : (implementation service.uncommented (methods.map .uncommented)).code =
      (implementation service methods).code :=
    code_interface_uncommented MethodContract.code_handlerMembers _ _ methods
  have client : (clientInterface service.uncommented (methods.map .uncommented)).code =
      (clientInterface service methods).code :=
    code_interface_uncommented MethodContract.code_clientMembers _ _ methods
  have promise : (promiseInterface service.uncommented (methods.map .uncommented)).code =
      (promiseInterface service methods).code :=
    code_interface_uncommented MethodContract.code_promiseMembers _ _ methods
  simp only [items, List.flatMap_append, List.flatMap_cons, code_comment, table, implementation,
    client, promise]
  rfl

end ServiceContract

theorem Schema.serviceContract_uncommented (schema : Schema) (service : Service) :
    Agree (fun items others => items.flatMap Item.code = others.flatMap Item.code)
      (schema.uncommented.serviceContract service.uncommented)
      (schema.serviceContract service) := by
  have methods : service.uncommented.methods.mapM (MethodContract.ofMethod schema.uncommented) =
      (service.methods.mapM (MethodContract.ofMethod schema)).map (List.map .uncommented) := by
    rw [map_mapM, Service.uncommented, List.mapM_map]
    simp only [Function.comp_def, MethodContract.ofMethod_uncommented]
  rw [serviceContract, serviceContract, methods]
  cases service.methods.mapM (MethodContract.ofMethod schema) with
  | error error => exact .error error
  | ok methods => exact .ok (ServiceContract.code_items service methods)

namespace Module

/-- Nothing in a header is code, whether or not the file has comments. -/
theorem code_header (file : SchemaFile) : (header file).flatMap (·.code) = [] := by
  have marked : (Item.comment (mark file)).code = [] := by
    rw [mark]
    split
    · exact code_commentLayout (by decide) 0
    · exact code_commentLayout (by decide) 0
  have shown : (Item.comment
      (Comment.block .file .leading file.comments Comment.lineMarker)).code = [] :=
    code_commentBlock _ _ _ 0
  rw [header, List.flatMap_append, List.flatMap_cons, marked]
  split
  · rfl
  · simp only [List.flatMap_cons, shown]
    rfl

variable (schema : Schema)

/-- Every stage prints the code that it prints without the comments. -/
theorem printStage_uncommented (file : SchemaFile) (options : Options) (stage : Stage) :
    SameCode (printStage schema.uncommented file.uncommented options stage)
      (printStage schema file options stage) := by
  cases stage with
  | start | done => exact .of_prints (Prints.pure ()) (.inl rfl)
  | header => exact .printAll ((code_header file.uncommented).trans (code_header file).symm)
  | imports =>
      rw [printStage, printStage, schema.importBlock_uncommented]
      apply SameCode.lift_bind (.refl _)
      rintro imports _ rfl
      exact (SameCode.printAll rfl).bind (.of_prints (Item.prints_print .blank) (.inr ⟨[], rfl⟩))
  | messageBindings =>
      rw [printStage, printStage, schema.reachableMessages_uncommented]
      apply SameCode.forM
      intro id
      rw [schema.messageBindings_uncommented]
      apply SameCode.lift_bind (.refl _)
      rintro bindings _ rfl
      exact .printAll rfl
  | serviceContracts =>
      rw [printStage, printStage, SchemaFile.uncommented, List.forM_eq_forM, List.forM_map]
      apply SameCode.forM
      intro service
      exact .lift_bind (schema.serviceContract_uncommented service) fun _ _ => .printAll

/-- The stages follow one another alike, because each of them ends its last line. -/
theorem print_uncommented (id : FileId) (options : Options) :
    SameCode (print schema.uncommented id options) (print schema id options) := by
  have stage := printStage_uncommented schema (schema.file id) options
  rw [print_eq, print_eq, schema.file_uncommented]
  refine .lift_bind (.refl _) fun _ _ _ => ?_
  exact (stage .header).bind ((stage .imports).bind
    ((stage .messageBindings).bind (stage .serviceContracts)))

end Module

/-- Two files with the same name and the same lines of code. -/
structure GeneratedFile.SameCode (file other : GeneratedFile) : Prop where
  name : file.name = other.name
  code : file.content.codeLines = other.content.codeLines

namespace Schema

theorem generate_uncommented (schema : Schema) (id : FileId) (options : Options) :
    Agree GeneratedFile.SameCode (schema.uncommented.generate id options)
      (schema.generate id options) := by
  obtain ⟨result, t, u, prints, otherPrints, _, _, same⟩ :=
    Module.print_uncommented schema id options
  rw [generate, generate, Module.write_of_prints prints rfl, Module.write_of_prints otherPrints rfl]
  cases result with
  | error error => exact .error error
  | ok _ =>
      refine .ok ⟨?_, ?_⟩
      · simp only [file_uncommented]
        rfl
      · simp only [Sink.written_add]
        exact same

theorem generatePath_uncommented (schema : Schema) (path : Text) (options : Options) :
    Agree GeneratedFile.SameCode (schema.uncommented.generatePath path options)
      (schema.generatePath path options) := by
  rw [generatePath, generatePath, fileId_uncommented]
  cases schema.fileId path with
  | error error => exact .error error
  | ok id => exact schema.generate_uncommented id options

variable {descriptors others : List FileDescriptor}

/-- Descriptors that differ in their comments only are refused for the same reason, or become
schemas whose modules have the same code, each by its path and under its name. -/
theorem code_agrees_of_uncommented_eq
    (alike : descriptors.map FileDescriptor.uncommented = others.map FileDescriptor.uncommented) :
    Agree
      (fun schema other => ∀ path options,
        Agree GeneratedFile.SameCode (schema.generatePath path options)
          (other.generatePath path options))
      (ofDescriptors descriptors) (ofDescriptors others) := by
  -- Both lists become the same schema without comments, and both are compared with that one.
  have first := Agree.map uncommented (ofDescriptors descriptors)
  have second := Agree.map uncommented (ofDescriptors others)
  rw [← ofDescriptors_uncommented, alike] at first
  rw [← ofDescriptors_uncommented] at second
  apply first.join second
  rintro _ schema other rfl same path options
  have left := schema.generatePath_uncommented path options
  rw [same] at left
  apply left.join (other.generatePath_uncommented path options)
  intro _ _ _ fromFirst fromSecond
  exact ⟨fromFirst.name.symm.trans fromSecond.name, fromFirst.code.symm.trans fromSecond.code⟩

/-- A file with a service of one method, with comments at these locations. -/
def echo (locations : Option (List Location)) : FileDescriptor :=
  {
    name := some "echo.proto", package := some "echo", dependencies := []
    messages := [.mk (some "Sound") []]
    services :=
      [
        {
          name := some "Cave"
          methods :=
            [
              {
                name := some "Shout", input := some ".echo.Sound", output := some ".echo.Sound"
                clientStreaming := none, serverStreaming := none
              }
            ]
        }
      ]
    locations
  }

/-- Comments of the file, the service and the method: with an empty line, with both kinds of line
ends, without the last line end, apart from the element, and like code. -/
def annotations : List Location :=
  [
    {
      path := Registry.fileCommentPath, leading := some " First.\n\n Second.\n", trailing := none
      detached := [" Apart.\n", " Far away."]
    },
    {
      path := Registry.serviceCommentPath 0, leading := some "process.exit(1);", trailing := none
      detached := []
    },
    {
      path := Registry.methodCommentPath 0 0, leading := some " Loud.\r\n"
      trailing := some " Not.\n"
      detached := []
    }
  ]

theorem code_agrees_of_annotations :
    ∃ schema other, ofDescriptors [echo (some annotations)] = .ok schema ∧
      ofDescriptors [echo none] = .ok other ∧ schema ≠ other ∧
      ([echo (some annotations)].map FileDescriptor.uncommented =
        [echo none].map FileDescriptor.uncommented) ∧
      ∀ path options, Agree GeneratedFile.SameCode (schema.generatePath path options)
        (other.generatePath path options) := by
  have accepted : ofDescriptors [echo (some annotations)] =
      .ok (Registry.listing [echo (some annotations)]).schemaOf := rfl
  have otherAccepted : ofDescriptors [echo none] =
      .ok (Registry.listing [echo none]).schemaOf := rfl
  have agree := code_agrees_of_uncommented_eq
    (show [echo (some annotations)].map FileDescriptor.uncommented =
      [echo none].map FileDescriptor.uncommented from rfl)
  rw [accepted, otherAccepted] at agree
  cases agree with
  | ok same => exact ⟨_, _, accepted, otherAccepted, by decide, rfl, same⟩

end Schema
end GrpcBindings

import GrpcBindings.Proofs.CodeLines
import GrpcBindings.Proofs.ImportCorrectness
import GrpcBindings.Proofs.Options

/-!
What the parameter has influence on. Of the options, a module shows only what the call library is
imported from, in a line of its own, and a specifier that a parameter gives is printed there as it
is. Whether a file can be generated, why not, and all other text are the same for every parameter.
-/

namespace GrpcBindings
namespace Text

/-- A specifier needs no escape. -/
theorem singleQuoted_of_isSpecifier {t : Text} (specifier : Options.IsSpecifier t) :
    t.singleQuoted = "'" ++ t ++ "'" := by
  have plain : t.flatMap escapeChar = t := by
    conv_rhs => rw [← List.flatMap_singleton' t]
    apply List.flatMap_congr
    intro c member
    obtain ⟨_, noQuote, noBackslash, noFeed⟩ := specifier
    unfold escapeChar
    split
    · exact absurd member noBackslash
    · exact absurd member noQuote
    · exact absurd member noFeed
    · rfl
  rw [singleQuoted, plain]

end Text

/-- The import of the call library. -/
def runtimeImport (options : Options) : Item :=
  .namespaceImport runtimeAlias options.runtimeModule

/-- The line that imports the call library from a specifier. -/
def runtimeLine (specifier : Text) : Text :=
  "import * as grpc from '" ++ specifier ++ "';\n"

theorem source_runtimeImport {options : Options}
    (specifier : Options.IsSpecifier options.runtimeModule) :
    (runtimeImport options).source = runtimeLine options.runtimeModule := by
  rw [runtimeLine, runtimeImport, Item.source, Item.layout,
    Text.singleQuoted_of_isSpecifier specifier,
    Document.source_line (List.append_ne_nil_of_right_ne_nil _ (by decide))]
  simp only [List.append_assoc]
  rfl

theorem rendering_imports (schema : Schema) (file : SchemaFile) (options : Options) :
    Item.rendering (schema.imports file options) = (runtimeImport options).source ++
      Item.rendering ((schema.importedPaths file).map (messageImport file.path)) := by
  rw [Schema.imports_eq, Item.rendering_eq, Item.rendering_eq, List.flatMap_cons]
  rfl

namespace Module

variable {descriptors : List FileDescriptor} {schema : Schema} {id : FileId}

/-- A file that cannot be generated fails in one way with all options. Otherwise its module is one
text around the import of the call library. -/
theorem write_failed_or_generated (accepted : Schema.ofDescriptors descriptors = .ok schema)
    (known : id.index < schema.files.length) :
    (∃ error written, ∀ options sink, sink.room = none →
      write schema id options sink = (.error error, sink.add written none)) ∨
    ∃ before after, before.EndsLine ∧ ∀ options sink, sink.room = none →
      write schema id options sink =
        (.ok (), sink.add (before ++ (runtimeImport options).source ++ after) none) := by
  cases own : SchemaPath.check (schema.file id).path with
  | error error =>
      exact .inl ⟨error, [], fun options _ => write_of_prints (prints_rejected_path own)⟩
  | ok _ =>
      cases faults : schema.importFaults (schema.file id) with
      | cons error others =>
          refine .inl ⟨error, _, fun options _ => write_of_prints (prints_rejected_import own ?_)⟩
          rw [Schema.importBlock_eq, faults]
          rfl
      | nil =>
          obtain ⟨bindings, bound⟩ := exists_mapM_ok (schema.reachableMessages (schema.file id))
            fun _ reachable => Schema.messageBindings_of_reachable accepted known reachable
          obtain ⟨contracts, contracted⟩ := exists_mapM_ok (schema.file id).services
            fun _ member => Schema.serviceContract_of_service accepted known member
          refine .inr ⟨_, Item.rendering ((schema.importedPaths (schema.file id)).map
              (messageImport (schema.file id).path)) ++ "\n" ++
            bindings.flatMap Item.rendering ++ contracts.flatMap Item.rendering,
            Item.endsLine_rendering (header (schema.file id)), ?_⟩
          intro options sink unlimited
          have imported : schema.importBlock (schema.file id) options =
              .ok (schema.imports (schema.file id) options) := by
            rw [Schema.importBlock_eq, faults]
            rfl
          rw [write_of_prints (prints_complete own imported bound contracted) unlimited,
            rendering_imports]
          simp only [List.append_assoc]

variable {first second : Options}

/-- Only what the call library is imported from is read from the options. -/
theorem printStage_congr (file : SchemaFile) (same : first.runtimeModule = second.runtimeModule)
    (stage : Stage) : printStage schema file first stage = printStage schema file second stage := by
  have imports : schema.importBlock file first = schema.importBlock file second := by
    rw [Schema.importBlock, Schema.importBlock, same]
  cases stage with
  | imports => rw [printStage, printStage, imports]
  | start | header | messageBindings | serviceContracts | done => rfl

theorem write_congr (same : first.runtimeModule = second.runtimeModule) (sink : Sink) :
    write schema id first sink = write schema id second sink := by
  have stages : printStage schema (schema.file id) first =
      printStage schema (schema.file id) second :=
    funext fun stage => printStage_congr _ same stage
  rw [write, write, print, print, stages]

end Module

namespace Schema

/-- What becomes of the file at a path is the same with two options, apart from the line that
imports the call library. -/
inductive SameButForModule (schema : Schema) (path : Text) (first second : Options) : Prop where
  /-- For one reason there is no module, and as much of it is written before the failure. -/
  | failed (error : Error) (fails : schema.generatePath path first = .error error)
      (otherFails : schema.generatePath path second = .error error)
      (written : ∀ id sink, schema.fileId path = .ok id → sink.room = none →
        Module.write schema id second sink = Module.write schema id first sink)
  | generated (name before after : Text) (lines : before.EndsLine)
      (oneLine : '\n' ∉ first.runtimeModule ∧ '\n' ∉ second.runtimeModule)
      (generated : schema.generatePath path first =
        .ok { name, content := before ++ runtimeLine first.runtimeModule ++ after })
      (otherGenerated : schema.generatePath path second =
        .ok { name, content := before ++ runtimeLine second.runtimeModule ++ after })

variable {descriptors : List FileDescriptor} {schema : Schema} {path : Text}
  {first second : Options}

theorem generatePath_congr (same : first.runtimeModule = second.runtimeModule) (path : Text) :
    schema.generatePath path first = schema.generatePath path second := by
  cases found : schema.fileId path with
  | error error => rw [generatePath_of_unknown found, generatePath_of_unknown found]
  | ok id =>
      rw [generatePath_of_fileId found, generatePath_of_fileId found, generate, generate,
        Module.write_congr same]

theorem generate_of_write_failed {id : FileId} {options : Options} {error : Error} {sink : Sink}
    (failed : Module.write schema id options {} = (.error error, sink)) :
    schema.generate id options = .error error := by
  rw [generate, failed]

theorem generate_of_write {id : FileId} {options : Options} {content : Text}
    (written : Module.write schema id options {} = (.ok (), Sink.add {} content none)) :
    schema.generate id options =
      .ok { name := SchemaPath.serviceFile (schema.file id).path, content } := by
  rw [generate, written]
  exact congrArg _ (congrArg _ (Sink.written_add {} content none))

theorem sameButForModule_of_specifiers (accepted : ofDescriptors descriptors = .ok schema)
    (path : Text) (specifier : Options.IsSpecifier first.runtimeModule)
    (otherSpecifier : Options.IsSpecifier second.runtimeModule) :
    schema.SameButForModule path first second := by
  cases found : schema.fileId path with
  | error error =>
      refine .failed error (generatePath_of_unknown found _) (generatePath_of_unknown found _) ?_
      intro id sink other
      rw [found] at other
      cases other
  | ok id =>
      have known := (file_of_path? ((fileId_eq_ok_iff accepted path id).mp found)).1
      rcases Module.write_failed_or_generated accepted known with
        ⟨error, written, failed⟩ | ⟨before, after, lines, written⟩
      · refine .failed error ?_ ?_ ?_
        · rw [generatePath_of_fileId found, generate_of_write_failed (failed first {} rfl)]
        · rw [generatePath_of_fileId found, generate_of_write_failed (failed second {} rfl)]
        · intro other sink same unlimited
          rw [found] at same
          cases same
          rw [failed first sink unlimited, failed second sink unlimited]
      · refine .generated (SchemaPath.serviceFile (schema.file id).path) before after lines
          ⟨specifier.2.2.2, otherSpecifier.2.2.2⟩ ?_ ?_
        · rw [generatePath_of_fileId found, generate_of_write (written first {} rfl),
            source_runtimeImport specifier]
        · rw [generatePath_of_fileId found, generate_of_write (written second {} rfl),
            source_runtimeImport otherSpecifier]

open Options (ofParameter segmentTexts keyOf runtimeModuleKey)

/-- Two parameters that are accepted make the same of every file, apart from the line that imports
the call library. So parameters that give one module, and those that differ in segments with other
keys only, make the same of it altogether. -/
theorem parameter_changes_one_line (accepted : ofDescriptors descriptors = .ok schema)
    {parameter other : Text} {options otherOptions : Options}
    (read : ofParameter parameter = .ok options)
    (otherRead : ofParameter other = .ok otherOptions) (path : Text) :
    schema.SameButForModule path options otherOptions ∧
    (options.runtimeModule = otherOptions.runtimeModule →
      schema.generatePath path otherOptions = schema.generatePath path options ∧
      ∀ id sink, Module.write schema id otherOptions sink = Module.write schema id options sink) ∧
    ∀ unknown, (∀ segment ∈ unknown, keyOf segment ≠ runtimeModuleKey) →
      (segmentTexts other).Perm (segmentTexts parameter ++ unknown) →
      schema.generatePath path otherOptions = schema.generatePath path options := by
  refine ⟨?_, ?_, ?_⟩
  · exact sameButForModule_of_specifiers accepted path
      ((Options.ofParameter_eq_ok_iff _ _).mp read).isSpecifier
      ((Options.ofParameter_eq_ok_iff _ _).mp otherRead).isSpecifier
  · intro same
    exact ⟨generatePath_congr same.symm path, fun _ sink => Module.write_congr same.symm sink⟩
  · intro unknown ignored reordered
    have same := Options.runtimeModule_of_perm (Options.moduleSegments_perm ignored reordered)
    rw [read, otherRead] at same
    exact generatePath_congr (Option.some.inj same) path

/-- The service of the second file exchanges a message of the first, two directories away. -/
def clocks : List FileDescriptor :=
  [
    {
      name := some "base/time/instant.proto", package := some "base", dependencies := []
      messages := [.mk (some "Instant") []]
      services := [], locations := none
    },
    {
      name := some "clock.proto", package := none, dependencies := ["base/time/instant.proto"]
      messages := []
      services :=
        [
          {
            name := some "Clock"
            methods :=
              [
                {
                  name := some "Now", input := some ".base.Instant"
                  output := some ".base.Instant", clientStreaming := none
                  serverStreaming := some true
                }
              ]
          }
        ]
      locations := none
    }
  ]

theorem parameter_changes_one_line_clocks :
    ∃ schema options otherOptions, ofDescriptors clocks = .ok schema ∧
      Options.ofParameter "fast, runtime_module = @grpc/grpc-js" = .ok options ∧
      Options.ofParameter "runtime_module=./a b,speed=2" = .ok otherOptions ∧
      ∃ name before after : Text, before.EndsLine ∧
        schema.generatePath "clock.proto" options =
          .ok { name, content := before ++ runtimeLine "@grpc/grpc-js" ++ after } ∧
        schema.generatePath "clock.proto" otherOptions =
          .ok { name, content := before ++ runtimeLine "./a b" ++ after } := by
  have accepted : ofDescriptors clocks = .ok (Registry.listing clocks).schemaOf := rfl
  have read : Options.ofParameter "fast, runtime_module = @grpc/grpc-js" =
      .ok { runtimeModule := "@grpc/grpc-js", ignored := ["fast"] } := by
    decide +kernel
  have otherRead : Options.ofParameter "runtime_module=./a b,speed=2" =
      .ok { runtimeModule := "./a b", ignored := ["speed"] } := by
    decide +kernel
  refine ⟨_, _, _, accepted, read, otherRead, ?_⟩
  obtain ⟨same, _⟩ := parameter_changes_one_line accepted read otherRead "clock.proto"
  cases same with
  | generated name before after lines _ generated otherGenerated =>
      exact ⟨name, before, after, lines, generated, otherGenerated⟩
  | failed error fails _ _ =>
      obtain ⟨file, generated⟩ := (generatePath_ok_iff accepted _ "clock.proto").mpr (by decide)
      rw [generated] at fails
      cases fails

end Schema
end GrpcBindings

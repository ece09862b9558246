import Mathlib.Data.List.Basic
import GrpcBindings.Options
import GrpcBindings.Proofs.SchemaPath

/-!
What a parameter says. Its segments count for their keys: at most one of them may give the module,
and the others are only listed. A parameter is refused for the first segment that gives no module
where it should, or a second one, and otherwise for the module itself. Neither the order of the
segments nor those with other keys matter for that.
-/

namespace GrpcBindings
namespace Text

theorem cut?_eq (sep : Char) (t : Text) :
    t.cut? sep =
      if sep ∈ t then some (t.takeWhile (· ≠ sep), (t.dropWhile (· ≠ sep)).tail) else none := by
  induction t with
  | nil => rfl
  | cons c rest ih =>
      rw [cut?, ih]
      by_cases same : c = sep
      · simp [same]
      · have other : ¬ sep = c := fun equal => same equal.symm
        by_cases later : sep ∈ rest <;> simp [same, other, later]

end Text

namespace Options

/-- The segments of a parameter: what stands between the commas, without the white space around it,
unless nothing is left. -/
def segmentTexts (parameter : Text) : List Text :=
  ((List.splitOn ',' parameter).map Text.trim).filter fun segment => !segment.isEmpty

/-- What stands before the first equals sign, or the whole segment. -/
def keyOf (segment : Text) : Text :=
  if '=' ∈ segment then Text.trim (segment.takeWhile (· ≠ '=')) else segment

/-- What stands behind the first equals sign. -/
def valueOf (segment : Text) : Text :=
  Text.trim (segment.dropWhile (· ≠ '=')).tail

def givesModule (segment : Text) : Bool :=
  keyOf segment = runtimeModuleKey

/-- The segments that are to give the module. -/
def moduleSegments (segments : List Text) : List Text :=
  segments.filter givesModule

/-- What is accepted as a module. -/
def IsSpecifier (t : Text) : Prop :=
  t ≠ [] ∧ '\'' ∉ t ∧ '\\' ∉ t ∧ '\n' ∉ t

instance (t : Text) : Decidable (IsSpecifier t) :=
  inferInstanceAs (Decidable (_ ∧ _))

/-- No segment is wrong in itself or behind the others. -/
structure Orderly (segments : List Text) : Prop where
  atMostOne : (moduleSegments segments).length ≤ 1
  valued : ∀ segment ∈ moduleSegments segments, '=' ∈ segment

/-- What is wrong with a segment that is to give the module, behind others. -/
inductive Wrong (before : List Text) (segment : Text) : Fault → Prop where
  | valueMissing (bare : '=' ∉ segment) : Wrong before segment .valueMissing
  | repeated (valued : '=' ∈ segment) (earlier : moduleSegments before ≠ []) :
      Wrong before segment .repeated

/-- What is wrong with a module. -/
inductive Invalid : Text → Fault → Prop where
  | empty : Invalid [] .empty
  | notASpecifier {t : Text} (filled : t ≠ []) (refused : ¬ IsSpecifier t) :
      Invalid t (.notASpecifier t)

/-- What the segments give as the module. -/
def moduleOf (segments : List Text) : Option Text :=
  (moduleSegments segments).head?.map valueOf

/-- The keys of the segments that do not give the module. -/
def otherKeys (segments : List Text) : List Text :=
  (segments.filter fun segment => !givesModule segment).map keyOf

/-- Segments that are accepted, and the options that they give. -/
structure Accepted (segments : List Text) (options : Options) : Prop where
  orderly : Orderly segments
  specifier : ∀ segment ∈ moduleSegments segments, IsSpecifier (valueOf segment)
  runtimeModule : options.runtimeModule = (moduleOf segments).getD "grpc"
  ignored : options.ignored = otherKeys segments

/-- Segments that are refused, and what for: the first of them that is wrong behind those before it,
or else the module. -/
inductive Refused (segments : List Text) (fault : Fault) : Prop where
  | segment {before after : List Text} {segment : Text}
      (split : segments = before ++ segment :: after) (orderly : Orderly before)
      (gives : givesModule segment = true) (wrong : Wrong before segment fault)
  | value {segment : Text} (orderly : Orderly segments) (member : segment ∈ moduleSegments segments)
      (invalid : Invalid (valueOf segment) fault)

theorem segments_eq (parameter : Text) :
    segments parameter = (segmentTexts parameter).map Segment.ofText := by
  rw [segments, Text.pieces_eq_splitOn]
  rfl

theorem ofText_eq (segment : Text) :
    Segment.ofText segment =
      ⟨keyOf segment, if '=' ∈ segment then some (valueOf segment) else none⟩ := by
  rw [Segment.ofText, Text.cut?_eq, keyOf]
  by_cases valued : '=' ∈ segment
  · simp [valued, valueOf]
  · simp [valued]

theorem moduleSegments_append (first second : List Text) :
    moduleSegments (first ++ second) = moduleSegments first ++ moduleSegments second :=
  List.filter_append first second

theorem moduleSegments_cons_of_not {segment : Text} (other : givesModule segment = false)
    (rest : List Text) : moduleSegments (segment :: rest) = moduleSegments rest :=
  List.filter_cons_of_neg (by simp [other])

theorem moduleSegments_cons {segment : Text} (gives : givesModule segment = true)
    (rest : List Text) : moduleSegments (segment :: rest) = segment :: moduleSegments rest :=
  List.filter_cons_of_pos gives

theorem orderly_nil : Orderly [] :=
  ⟨Nat.zero_le 1, fun _ member => nomatch member⟩

theorem Orderly.of_moduleSegments_eq {first second : List Text} (orderly : Orderly first)
    (same : moduleSegments second = moduleSegments first) : Orderly second :=
  ⟨same ▸ orderly.atMostOne, same ▸ orderly.valued⟩

/-- A segment that gives the module among orderly ones is the first and the only one. -/
theorem Orderly.at_segment {before after : List Text} {segment : Text}
    (orderly : Orderly (before ++ segment :: after)) (gives : givesModule segment = true) :
    moduleSegments before = [] ∧ '=' ∈ segment := by
  have count := orderly.atMostOne
  rw [moduleSegments_append, moduleSegments_cons gives, List.length_append, List.length_cons]
    at count
  refine ⟨List.length_eq_zero_iff.mp (by omega), orderly.valued segment ?_⟩
  simp [moduleSegments_append, moduleSegments_cons gives]

theorem Orderly.moduleOf_eq_of_mem {texts : List Text} (orderly : Orderly texts) {segment : Text}
    (member : segment ∈ moduleSegments texts) : moduleOf texts = some (valueOf segment) := by
  obtain ⟨before, after, split⟩ := List.append_of_mem member
  have count := orderly.atMostOne
  rw [split, List.length_append, List.length_cons] at count
  have first : before = [] := List.length_eq_zero_iff.mp (by omega)
  rw [moduleOf, split, first]
  rfl

theorem collect_ofText (read : Option Text) (segment : Text) (rest : List Segment) :
    collect read (Segment.ofText segment :: rest) =
      if givesModule segment then
        if '=' ∉ segment then .error .valueMissing
        else if read.isSome then .error .repeated
        else collect (some (valueOf segment)) rest
      else (collect read rest).map fun (value, ignored) => (value, keyOf segment :: ignored) := by
  have known (value : Option Text) :
      (Segment.mk (keyOf segment) value).isKnown = givesModule segment := rfl
  rw [ofText_eq]
  cases gives : givesModule segment with
  | false =>
      simp only [collect, known, gives, Bool.false_eq_true, if_false]
      cases collect read rest <;> rfl
  | true =>
      by_cases valued : '=' ∈ segment
      · cases read <;> simp [collect, known, gives, valued]
      · simp [collect, known, gives, valued]

theorem collect_of_wrong {before : List Text} {segment : Text} {fault : Fault}
    (gives : givesModule segment = true) (wrong : Wrong before segment fault)
    (rest : List Segment) :
    collect (moduleOf before) (Segment.ofText segment :: rest) = .error fault := by
  rw [collect_ofText, if_pos gives]
  cases wrong with
  | valueMissing bare => rw [if_pos bare]
  | repeated valued earlier =>
      obtain ⟨first, others, same⟩ := List.exists_cons_of_ne_nil earlier
      have read : (moduleOf before).isSome = true := by
        rw [moduleOf, same]
        rfl
      rw [if_neg (not_not_intro valued), if_pos read]

/-- As long as the segments are orderly they are read one after the other, and what has been read is
what they give. -/
theorem collect_append (before more rest : List Text) (orderly : Orderly (before ++ more)) :
    collect (moduleOf before) ((more ++ rest).map Segment.ofText) =
      (collect (moduleOf (before ++ more)) (rest.map Segment.ofText)).map
        fun (value, ignored) => (value, otherKeys more ++ ignored) := by
  induction more generalizing before with
  | nil =>
      rw [List.append_nil, List.nil_append]
      cases collect (moduleOf before) (rest.map Segment.ofText) <;> rfl
  | cons segment more ih =>
      have later := ih (before ++ [segment]) (by simpa using orderly)
      rw [List.append_assoc, List.singleton_append] at later
      rw [List.cons_append, List.map_cons]
      cases gives : givesModule segment with
      | false =>
          have read : moduleOf before = moduleOf (before ++ [segment]) := by
            rw [moduleOf, moduleOf, moduleSegments_append, moduleSegments_cons_of_not gives]
            simp [moduleSegments]
          have keys : otherKeys (segment :: more) = keyOf segment :: otherKeys more := by
            simp [otherKeys, gives]
          rw [collect_ofText, if_neg (by simp [gives]), read, later, keys]
          cases collect (moduleOf (before ++ segment :: more)) (rest.map Segment.ofText) <;> rfl
      | true =>
          obtain ⟨nothing, valued⟩ := orderly.at_segment gives
          have read : moduleOf (before ++ [segment]) = some (valueOf segment) := by
            rw [moduleOf, moduleSegments_append, nothing, moduleSegments_cons gives]
            rfl
          have keys : otherKeys (segment :: more) = otherKeys more := by
            simp [otherKeys, gives]
          have unread : (moduleOf before).isSome = false := by
            rw [moduleOf, nothing]
            rfl
          rw [collect_ofText, if_pos gives, if_neg (not_not_intro valued),
            if_neg (by simp [unread]), ← read, later, keys]

theorem collect_of_orderly {texts : List Text} (orderly : Orderly texts) :
    collect none (texts.map Segment.ofText) = .ok (moduleOf texts, otherKeys texts) := by
  have run := collect_append [] texts [] orderly
  rw [List.append_nil] at run
  rw [← List.append_nil (otherKeys texts)]
  exact run

/-- Segments are orderly, or there is a first one that is wrong. -/
theorem orderly_or_wrong (texts : List Text) :
    Orderly texts ∨
      ∃ before segment after fault, texts = before ++ segment :: after ∧ Orderly before ∧
        givesModule segment = true ∧ Wrong before segment fault := by
  induction texts using List.reverseRecOn with
  | nil => exact .inl orderly_nil
  | append_singleton texts segment ih =>
      rcases ih with orderly | ⟨before, wrongOne, after, fault, rfl, orderly, gives, wrong⟩
      · cases gives : givesModule segment with
        | false =>
            refine .inl (orderly.of_moduleSegments_eq ?_)
            rw [moduleSegments_append, moduleSegments_cons_of_not gives]
            exact List.append_nil _
        | true =>
            by_cases valued : '=' ∈ segment
            · by_cases earlier : moduleSegments texts = []
              · have only : moduleSegments (texts ++ [segment]) = [segment] := by
                  rw [moduleSegments_append, earlier, moduleSegments_cons gives]
                  rfl
                exact .inl ⟨by simp [only], by simpa [only] using valued⟩
              · exact .inr ⟨texts, segment, [], _, rfl, orderly, gives, .repeated valued earlier⟩
            · exact .inr ⟨texts, segment, [], _, rfl, orderly, gives, .valueMissing valued⟩
      · refine .inr ⟨before, wrongOne, after ++ [segment], fault, ?_, orderly, gives, wrong⟩
        rw [List.append_assoc, List.cons_append]

theorem checkSpecifier_eq (t : Text) :
    checkSpecifier t =
      if t = [] then .error .empty
      else if IsSpecifier t then .ok () else .error (.notASpecifier t) := by
  have special : (t.any fun c => c = '\'' || c = '\\' || c = '\n') = true ↔
      '\'' ∈ t ∨ '\\' ∈ t ∨ '\n' ∈ t := by
    simp [and_or_left, exists_or, or_assoc]
  simp only [checkSpecifier, List.isEmpty_iff]
  split
  · rfl
  · next filled =>
      by_cases specifier : IsSpecifier t
      · have plain := not_or.mpr ⟨specifier.2.1, not_or.mpr specifier.2.2⟩
        rw [if_neg (special.not.mpr plain), if_pos specifier]
      · rw [if_pos, if_neg specifier]
        by_contra fine
        rw [special, not_or, not_or] at fine
        exact specifier ⟨filled, fine⟩

theorem checkSpecifier_of_isSpecifier {t : Text} (specifier : IsSpecifier t) :
    checkSpecifier t = .ok () := by
  rw [checkSpecifier_eq, if_neg specifier.1, if_pos specifier]

theorem checkSpecifier_of_invalid {t : Text} {fault : Fault} (invalid : Invalid t fault) :
    checkSpecifier t = .error fault := by
  rw [checkSpecifier_eq]
  cases invalid with
  | empty => rfl
  | notASpecifier filled refused => rw [if_neg filled, if_neg refused]

theorem isSpecifier_or_invalid (t : Text) : IsSpecifier t ∨ ∃ fault, Invalid t fault := by
  by_cases specifier : IsSpecifier t
  · exact .inl specifier
  · by_cases filled : t = []
    · exact .inr ⟨_, filled ▸ Invalid.empty⟩
    · exact .inr ⟨_, .notASpecifier filled specifier⟩

theorem accepted_or_refused (texts : List Text) :
    (∃ options, Accepted texts options) ∨ ∃ fault, Refused texts fault := by
  rcases orderly_or_wrong texts with orderly | ⟨_, _, _, fault, split, orderly, gives, wrong⟩
  · by_cases specifiers : ∀ segment ∈ moduleSegments texts, IsSpecifier (valueOf segment)
    · exact .inl ⟨{ runtimeModule := _, ignored := _ }, orderly, specifiers, rfl, rfl⟩
    · push Not at specifiers
      obtain ⟨segment, member, no⟩ := specifiers
      obtain ⟨fault, invalid⟩ := (isSpecifier_or_invalid (valueOf segment)).resolve_left no
      exact .inr ⟨fault, .value orderly member invalid⟩
  · exact .inr ⟨fault, .segment split orderly gives wrong⟩

/-- The module of accepted segments is a specifier, be it given or not. -/
theorem Accepted.isSpecifier {texts : List Text} {options : Options}
    (accepted : Accepted texts options) : IsSpecifier options.runtimeModule := by
  rw [accepted.runtimeModule, moduleOf]
  cases only : moduleSegments texts with
  | nil => decide
  | cons first others => exact accepted.specifier first (by simp [only])

theorem ofParameter_of_accepted {parameter : Text} {options : Options}
    (accepted : Accepted (segmentTexts parameter) options) :
    ofParameter parameter = .ok options := by
  have checked := checkSpecifier_of_isSpecifier accepted.isSpecifier
  have same : options =
      ⟨(moduleOf (segmentTexts parameter)).getD "grpc", otherKeys (segmentTexts parameter)⟩ := by
    rw [← accepted.runtimeModule, ← accepted.ignored]
  rw [accepted.runtimeModule] at checked
  rw [ofParameter, ofSegments, segments_eq, collect_of_orderly accepted.orderly, same]
  simp only [bind, Except.bind, checked]
  rfl

theorem ofParameter_of_refused {parameter : Text} {fault : Fault}
    (refused : Refused (segmentTexts parameter) fault) :
    ofParameter parameter = .error (.configuration fault.message) := by
  rw [ofParameter, ofSegments, segments_eq]
  cases refused with
  | @segment before after segment split orderly gives wrong =>
      have read := collect_append [] before (segment :: after) orderly
      rw [List.nil_append, List.map_cons, collect_of_wrong gives wrong] at read
      rw [split, show (none : Option Text) = moduleOf [] from rfl, read]
      rfl
  | value orderly member invalid =>
      have only := orderly.moduleOf_eq_of_mem member
      rw [collect_of_orderly orderly, only]
      simp only [bind, Except.bind, Option.getD_some, checkSpecifier_of_invalid invalid]
      rfl

theorem ofParameter_eq_ok_iff (parameter : Text) (options : Options) :
    ofParameter parameter = .ok options ↔ Accepted (segmentTexts parameter) options := by
  refine ⟨fun given => ?_, ofParameter_of_accepted⟩
  rcases accepted_or_refused (segmentTexts parameter) with ⟨other, accepted⟩ | ⟨fault, refused⟩
  · have same := given.symm.trans (ofParameter_of_accepted accepted)
    cases same
    exact accepted
  · have same := given.symm.trans (ofParameter_of_refused refused)
    cases same

theorem ofParameter_eq_error_iff (parameter : Text) (error : Error) :
    ofParameter parameter = .error error ↔
      ∃ fault, Refused (segmentTexts parameter) fault ∧ error = .configuration fault.message := by
  constructor
  · intro given
    rcases accepted_or_refused (segmentTexts parameter) with ⟨options, accepted⟩ | ⟨fault, refused⟩
    · have same := given.symm.trans (ofParameter_of_accepted accepted)
      cases same
    · have same := given.symm.trans (ofParameter_of_refused refused)
      cases same
      exact ⟨fault, refused, rfl⟩
  · rintro ⟨fault, refused, rfl⟩
    exact ofParameter_of_refused refused

/-- Segments with the same modules among them give the same one. -/
theorem Accepted.of_moduleSegments_eq {texts others : List Text} {options : Options}
    (accepted : Accepted texts options) (same : moduleSegments others = moduleSegments texts) :
    Accepted others { options with ignored := otherKeys others } where
  orderly := accepted.orderly.of_moduleSegments_eq same
  specifier := same ▸ accepted.specifier
  runtimeModule := by rw [moduleOf, same]; exact accepted.runtimeModule
  ignored := rfl

theorem moduleSegments_eq_nil {texts : List Text}
    (unknown : ∀ segment ∈ texts, keyOf segment ≠ runtimeModuleKey) : moduleSegments texts = [] :=
  List.filter_eq_nil_iff.mpr fun segment member gives =>
    unknown segment member (of_decide_eq_true gives)

theorem moduleSegments_perm {texts others unknown : List Text}
    (ignored : ∀ segment ∈ unknown, keyOf segment ≠ runtimeModuleKey)
    (reordered : others.Perm (texts ++ unknown)) :
    (moduleSegments others).Perm (moduleSegments texts) := by
  have kept := reordered.filter givesModule
  rwa [← moduleSegments, ← moduleSegments, moduleSegments_append, moduleSegments_eq_nil ignored,
    List.append_nil] at kept

/-- What is accepted stays so when the segments that are to give the module are reordered, since
there is one of them at most. -/
theorem Accepted.of_perm {texts others : List Text} {options : Options}
    (accepted : Accepted texts options)
    (reordered : (moduleSegments others).Perm (moduleSegments texts)) :
    Accepted others { options with ignored := otherKeys others } := by
  refine accepted.of_moduleSegments_eq ?_
  have count := accepted.orderly.atMostOne
  cases given : moduleSegments texts with
  | nil => exact List.perm_nil.mp (given ▸ reordered)
  | cons first rest =>
      rw [given, List.length_cons] at count
      have only : rest = [] := List.length_eq_zero_iff.mp (by omega)
      rw [given, only] at reordered
      rw [only, List.perm_singleton.mp reordered]

theorem runtimeModule_of_perm {parameter other : Text}
    (reordered : (moduleSegments (segmentTexts other)).Perm
      (moduleSegments (segmentTexts parameter))) :
    (ofParameter other).toOption.map runtimeModule =
      (ofParameter parameter).toOption.map runtimeModule := by
  rcases accepted_or_refused (segmentTexts parameter) with ⟨options, accepted⟩ | ⟨fault, refused⟩
  · rw [ofParameter_of_accepted accepted, ofParameter_of_accepted (accepted.of_perm reordered)]
    rfl
  · rcases accepted_or_refused (segmentTexts other) with ⟨options, accepted⟩ | ⟨_, otherRefused⟩
    · rw [ofParameter_of_accepted accepted,
        ofParameter_of_accepted (accepted.of_perm reordered.symm)]
      rfl
    · rw [ofParameter_of_refused refused, ofParameter_of_refused otherRefused]
      rfl

/-- What a parameter gives. It is accepted exactly for orderly segments with a specifier, and
refused for the first segment that is wrong or else for the module. Segments with other keys,
anywhere, and another order change neither whether it is accepted nor the module. -/
theorem ofParameter_reads_segments (parameter : Text) :
    (∀ options,
      ofParameter parameter = .ok options ↔ Accepted (segmentTexts parameter) options) ∧
    (∀ error, ofParameter parameter = .error error ↔
      ∃ fault, Refused (segmentTexts parameter) fault ∧ error = .configuration fault.message) ∧
    ∀ other unknown, (∀ segment ∈ unknown, keyOf segment ≠ runtimeModuleKey) →
      (segmentTexts other).Perm (segmentTexts parameter ++ unknown) →
      (ofParameter other).toOption.map runtimeModule =
        (ofParameter parameter).toOption.map runtimeModule :=
  ⟨ofParameter_eq_ok_iff parameter, ofParameter_eq_error_iff parameter,
    fun _ _ ignored reordered => runtimeModule_of_perm (moduleSegments_perm ignored reordered)⟩

theorem ofParameter_reads_segments_reordered :
    (ofParameter "speed=1, runtime_module = @grpc/grpc-js ,=").toOption.map runtimeModule =
      some "@grpc/grpc-js" := by
  have reordered : (segmentTexts "speed=1, runtime_module = @grpc/grpc-js ,=").Perm
      ((segmentTexts ",runtime_module = @grpc/grpc-js" : List Text) ++
        (["=", "speed=1"] : List Text)) := by
    decide +kernel
  have plain : (ofParameter ",runtime_module = @grpc/grpc-js").toOption.map runtimeModule =
      some "@grpc/grpc-js" := by
    decide +kernel
  have known := (ofParameter_reads_segments ",runtime_module = @grpc/grpc-js").2.2 _
    ["=", "speed=1"] (by decide +kernel) reordered
  exact known.trans plain

end Options
end GrpcBindings

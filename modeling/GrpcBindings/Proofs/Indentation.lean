import Mathlib.Data.List.Basic
import GrpcBindings.Proofs.Printing
import GrpcBindings.Proofs.Text.Lines

/-!
A document one level deeper. If no text in it breaks a line, its text there is what it was, with two
more spaces before every line that is not empty. A line that had begun before the document goes on
as it was. Values and members have no such texts if their names and types have no line feeds, since
strings are escaped and comments are cut into lines.
-/

namespace GrpcBindings
namespace Text

/-- No line feed breaks the text. -/
def OneLine (t : Text) : Prop :=
  '\n' ∉ t

instance (t : Text) : Decidable (OneLine t) :=
  inferInstanceAs (Decidable ('\n' ∉ t))

theorem OneLine.append {t u : Text} (first : OneLine t) (second : OneLine u) : OneLine (t ++ u) :=
  List.not_mem_append first second

theorem oneLine_join {sep : Text} (between : OneLine sep) {pieces : List Text}
    (each : ∀ piece ∈ pieces, OneLine piece) : OneLine (join sep pieces) := by
  induction pieces with
  | nil => exact List.not_mem_nil
  | cons first rest ih =>
      rw [List.forall_mem_cons] at each
      cases rest with
      | nil => exact each.1
      | cons second more => exact (each.1.append between).append (ih each.2)

theorem oneLine_escapeChar (c : Char) : OneLine (escapeChar c) := by
  unfold escapeChar
  split
  · decide
  · decide
  · decide
  · next notNewline => exact fun member => notNewline (List.mem_singleton.mp member).symm

theorem oneLine_singleQuoted (t : Text) : OneLine t.singleQuoted := by
  have inside : OneLine (t.flatMap escapeChar) := by
    intro member
    obtain ⟨c, _, escaped⟩ := List.mem_flatMap.mp member
    exact oneLine_escapeChar c escaped
  have quote : OneLine "'" := by decide
  exact (quote.append inside).append quote

/-- A line two spaces further in. An empty line stays empty. -/
def indentLine (line : Text) : Text :=
  if line.isEmpty then [] else "  " ++ line

/-- Lines two spaces further in, the first one only if it begins here. -/
def indentAll (startsLine : Bool) : List Text → List Text
  | [] => []
  | first :: more => (if startsLine then indentLine first else first) :: more.map indentLine

/-- A text with its lines two spaces further in. -/
def indentLines (startsLine : Bool) (t : Text) : Text :=
  ['\n'].intercalate (indentAll startsLine (List.splitOn '\n' t))

theorem indentAll_true (lines : List Text) : indentAll true lines = lines.map indentLine := by
  cases lines <;> rfl

theorem indentLines_nil (startsLine : Bool) : indentLines startsLine [] = [] := by
  cases startsLine <;> rfl

theorem indentLines_newline (startsLine : Bool) (rest : Text) :
    indentLines startsLine ('\n' :: rest) = '\n' :: indentLines true rest := by
  have empty : (if startsLine then indentLine [] else []) = [] := by
    cases startsLine <;> rfl
  rw [indentLines, List.splitOn_cons_eq_if_modifyHead, if_pos (beq_self_eq_true '\n'), indentAll,
    empty, indentLines, indentAll_true]
  cases found : List.splitOn '\n' rest with
  | nil => exact absurd found (List.splitOn_ne_nil '\n' rest)
  | cons first more => exact List.intercalate_cons_cons

theorem intercalate_append_head (sep t first : Text) (more : List Text) :
    sep.intercalate ((t ++ first) :: more) = t ++ sep.intercalate (first :: more) := by
  cases more with
  | nil => simp
  | cons second rest => simp [List.intercalate_cons_cons]

/-- What does not break the line begins it, or goes on with it as it is. -/
theorem indentLines_append {t : Text} (filled : t ≠ []) (oneLine : OneLine t) (startsLine : Bool)
    (rest : Text) :
    indentLines startsLine (t ++ rest) =
      (if startsLine then ("  " : Text) else []) ++ t ++ indentLines false rest := by
  have split : List.splitOn '\n' (t ++ rest) = (List.splitOn '\n' rest).modifyHead (t ++ ·) := by
    rw [List.splitOn_eq_splitOnP, List.splitOn_eq_splitOnP]
    refine splitOnP_append (fun c member => ?_) rest
    exact beq_false_of_ne fun newline => oneLine (newline ▸ member)
  rw [indentLines, split, indentLines]
  cases found : List.splitOn '\n' rest with
  | nil => exact absurd found (List.splitOn_ne_nil '\n' rest)
  | cons first more =>
      have line : (if startsLine then indentLine (t ++ first) else t ++ first) =
          (if startsLine then ("  " : Text) else []) ++ t ++ first := by
        cases startsLine <;> simp [indentLine, filled]
      rw [List.modifyHead_cons, indentAll, line, indentAll, intercalate_append_head]
      rfl

example : indentLines false "make(\n\n  a" = ("make(\n\n    a" : Text) := by decide

end Text

namespace Document

/-- No text breaks a line. -/
def OneLined : Document → Prop
  | text t => t.OneLine
  | lineBreak => True
  | indented body => body.OneLined
  | append first second => first.OneLined ∧ second.OneLined

/-- The text one level deeper, with whatever stands behind the document. -/
theorem indentLines_source_append {document : Document} (oneLined : document.OneLined)
    (level : Nat) (startsLine : Bool) (rest : Text) :
    Text.indentLines startsLine (document.source level startsLine ++ rest) =
      document.source (level + 1) startsLine ++
        Text.indentLines (document.endsLine startsLine) rest := by
  induction document generalizing level startsLine rest with
  | text t =>
      cases t with
      | nil => simp [source, endsLine]
      | cons c more =>
          rw [source, source, endsLine, List.isEmpty_cons, Bool.and_false]
          cases startsLine with
          | false => exact Text.indentLines_append (List.cons_ne_nil c more) oneLined false rest
          | true =>
              have filled : Printer.margin level ++ c :: more ≠ [] :=
                List.append_ne_nil_of_right_ne_nil _ (List.cons_ne_nil c more)
              have margin : Text.OneLine (Printer.margin level) := fun newline =>
                absurd (Printer.eq_space_of_mem_margin newline) (by decide)
              exact Text.indentLines_append filled (margin.append oneLined) true rest
  | lineBreak => exact Text.indentLines_newline startsLine rest
  | indented body ih => exact ih oneLined (level + 1) startsLine rest
  | append first second ihf ihs =>
      rw [source, List.append_assoc, ihf oneLined.1, ihs oneLined.2, ← List.append_assoc]
      rfl

theorem indentLines_source {document : Document} (oneLined : document.OneLined) (level : Nat)
    (startsLine : Bool) :
    document.source (level + 1) startsLine =
      Text.indentLines startsLine (document.source level startsLine) := by
  have whole := indentLines_source_append oneLined level startsLine []
  rw [List.append_nil, Text.indentLines_nil, List.append_nil] at whole
  exact whole.symm

theorem oneLined_concat {documents : List Document}
    (each : ∀ document ∈ documents, document.OneLined) : (concat documents).OneLined := by
  induction documents with
  | nil => exact List.not_mem_nil
  | cons first rest ih =>
      rw [List.forall_mem_cons] at each
      exact ⟨each.1, ih each.2⟩

theorem oneLined_line {t : Text} (oneLine : t.OneLine) : (line t).OneLined :=
  ⟨oneLine, trivial⟩

end Document

/-- A bare key is one line. A quoted one may have more. -/
def Key.OneLined : Key → Prop
  | bare name => name.OneLine
  | quoted _ => True

theorem Key.oneLine_text {key : Key} (oneLined : key.OneLined) : key.text.OneLine := by
  cases key with
  | bare name => exact oneLined
  | quoted name => exact name.oneLine_singleQuoted

def Parameter.OneLined (parameter : Parameter) : Prop :=
  parameter.name.OneLine ∧ parameter.type.OneLine

theorem Parameter.oneLine_text {parameter : Parameter} (oneLined : parameter.OneLined) :
    parameter.text.OneLine := by
  have between : Text.OneLine ((if parameter.isOptional then "?: " else ": " : String) : Text) := by
    cases parameter.isOptional <;> decide
  exact (oneLined.1.append between).append oneLined.2

theorem Parameter.oneLine_inlineText {parameters : List Parameter}
    (oneLined : ∀ parameter ∈ parameters, parameter.OneLined) :
    (inlineText parameters).OneLine := by
  apply Text.oneLine_join (by decide)
  rw [List.forall_mem_map]
  exact fun parameter member => oneLine_text (oneLined parameter member)

mutual

/-- Names and types are one line each. Strings may have more. -/
def Value.OneLined : Value → Prop
  | .identifier name => name.OneLine
  | .string _ | .boolean _ => True
  | .object entries => Entry.AllOneLined entries
  | .cast type value => type.OneLine ∧ value.OneLined
  | .call callee arguments => callee.OneLine ∧ Value.AllOneLined arguments

def Entry.OneLined : Entry → Prop
  | .mk key value => key.OneLined ∧ value.OneLined

def Entry.AllOneLined : List Entry → Prop
  | [] => True
  | first :: rest => first.OneLined ∧ Entry.AllOneLined rest

def Value.AllOneLined : List Value → Prop
  | [] => True
  | first :: rest => first.OneLined ∧ Value.AllOneLined rest

end

mutual

theorem Value.oneLined_layout (value : Value) (oneLined : value.OneLined) :
    value.layout.OneLined := by
  cases value with
  | identifier name => exact oneLined
  | string content => exact content.oneLine_singleQuoted
  | boolean flag =>
      have word : Text.OneLine (if flag then "true" else "false") := by
        cases flag <;> decide
      exact word
  | object entries =>
      have brackets : Text.OneLine "\x7b" ∧ Text.OneLine "\x7d" ∧ Text.OneLine "\x7b\x7d" := by
        decide
      rw [Value.layout]
      split
      · exact brackets.2.2
      · exact ⟨⟨Document.oneLined_line brackets.1, Entry.oneLined_layoutAll entries oneLined⟩,
          brackets.2.1⟩
  | cast type value =>
      have angles : Text.OneLine "<" ∧ Text.OneLine ">" := by decide
      have inner := Value.oneLined_layout value oneLined.2
      refine ⟨(angles.1.append oneLined.1).append angles.2, ?_⟩
      split
      · exact inner
      · exact ⟨trivial, inner⟩
  | call callee arguments =>
      have brackets : Text.OneLine "(" ∧ Text.OneLine ")" := by decide
      exact ⟨⟨⟨oneLined.1, brackets.1⟩, Value.oneLined_argumentsLayout true arguments oneLined.2⟩,
        brackets.2⟩

theorem Entry.oneLined_layout (entry : Entry) (oneLined : entry.OneLined) :
    entry.layout.OneLined := by
  cases entry with
  | mk key value =>
      have marks : Text.OneLine ": " ∧ Text.OneLine "," := by decide
      exact ⟨⟨(Key.oneLine_text oneLined.1).append marks.1,
        Value.oneLined_layout value oneLined.2⟩, Document.oneLined_line marks.2⟩

theorem Entry.oneLined_layoutAll (entries : List Entry) (oneLined : Entry.AllOneLined entries) :
    (Entry.layoutAll entries).OneLined := by
  cases entries with
  | nil => exact List.not_mem_nil
  | cons first rest =>
      exact ⟨Entry.oneLined_layout first oneLined.1, Entry.oneLined_layoutAll rest oneLined.2⟩

theorem Value.oneLined_argumentsLayout (isFirst : Bool) (arguments : List Value)
    (oneLined : Value.AllOneLined arguments) :
    (Value.argumentsLayout isFirst arguments).OneLined := by
  cases arguments with
  | nil => exact List.not_mem_nil
  | cons first rest =>
      have between : (if isFirst then Document.empty else Document.text ", ").OneLined := by
        cases isFirst
        · exact (by decide : Text.OneLine ", ")
        · exact List.not_mem_nil
      exact ⟨⟨between, Value.oneLined_layout first oneLined.1⟩,
        Value.oneLined_argumentsLayout false rest oneLined.2⟩

end

/-- Names and types are one line each. Comments may have more. -/
def Member.OneLined : Member → Prop
  | .comment _ | .gap => True
  | .property key type => key.OneLined ∧ type.OneLine
  | .method key parameters returns _ =>
      key.OneLined ∧ (∀ parameter ∈ parameters, parameter.OneLined) ∧ returns.OneLine
  | .construct parameters returns =>
      (∀ parameter ∈ parameters, parameter.OneLined) ∧ returns.OneLine

theorem oneLined_commentLayout (block : Text) : (commentLayout block).OneLined := by
  apply Document.oneLined_concat
  rw [List.forall_mem_map]
  exact fun line member => Document.oneLined_line (Text.newline_not_mem_lines block line member)

namespace Member

theorem oneLined_parametersLayout {parameters : List Parameter}
    (oneLined : ∀ parameter ∈ parameters, parameter.OneLined) {returns : Text}
    (result : returns.OneLine) (layout : ParameterLayout) :
    (parametersLayout parameters returns layout).OneLined := by
  have marks : Text.OneLine "(" ∧ Text.OneLine "): " ∧ Text.OneLine ";" ∧ Text.OneLine "(): " ∧
      Text.OneLine "( " ∧ Text.OneLine ", " := by decide
  obtain ⟨opening, closing, semicolon, nothing, first, next⟩ := marks
  cases layout with
  | inline =>
      have inner := Parameter.oneLine_inlineText oneLined
      exact Document.oneLined_line
        ((((opening.append inner).append closing).append result).append semicolon)
  | stacked =>
      cases parameters with
      | nil => exact Document.oneLined_line ((nothing.append result).append semicolon)
      | cons parameter rest =>
          rw [List.forall_mem_cons] at oneLined
          refine ⟨⟨Document.oneLined_line (first.append (Parameter.oneLine_text oneLined.1)), ?_⟩,
            Document.oneLined_line ((closing.append result).append semicolon)⟩
          apply Document.oneLined_concat
          rw [List.forall_mem_map]
          exact fun other member =>
            Document.oneLined_line (next.append (Parameter.oneLine_text (oneLined.2 other member)))

theorem oneLined_layout {member : Member} (oneLined : member.OneLined) :
    member.layout.OneLined := by
  cases member with
  | comment block => exact oneLined_commentLayout block
  | gap => exact Document.oneLined_line List.not_mem_nil
  | property key type =>
      have marks : Text.OneLine ": " ∧ Text.OneLine ";" := by decide
      exact Document.oneLined_line
        ((((Key.oneLine_text oneLined.1).append marks.1).append oneLined.2).append marks.2)
  | method key parameters returns layout =>
      exact ⟨Document.oneLined_line (Key.oneLine_text oneLined.1),
        oneLined_parametersLayout oneLined.2.1 oneLined.2.2 layout⟩
  | construct parameters returns =>
      have marks : Text.OneLine "new (" ∧ Text.OneLine "): " ∧ Text.OneLine ";" := by decide
      have parameters := Parameter.oneLine_inlineText oneLined.1
      exact Document.oneLined_line
        ((((marks.1.append parameters).append marks.2.1).append oneLined.2).append marks.2.2)

end Member

/-- What a document is printed as on an empty sink that takes all text. -/
def Document.printed (document : Document) (level : Nat) (startsLine : Bool) :
    Except Error Unit × Printer :=
  document.print { sink := {}, level, atLineStart := startsLine }

theorem Document.printed_eq (document : Document) (level : Nat) (startsLine : Bool) :
    document.printed level startsLine =
      (.ok (), {
        sink := Sink.add {} (document.source level startsLine) none
        level
        atLineStart := document.endsLine startsLine }) :=
  document.print_unlimited { sink := {}, level, atLineStart := startsLine } rfl

/-- One level deeper, the lines of a document are two spaces further in and nothing else changes. -/
structure Shifts (document : Document) (level : Nat) (startsLine : Bool) : Prop where
  succeeds : (document.printed level startsLine).1 = .ok ()
  succeedsDeeper : (document.printed (level + 1) startsLine).1 = .ok ()
  written : (document.printed (level + 1) startsLine).2.sink.written =
    Text.indentLines startsLine (document.printed level startsLine).2.sink.written
  atLineStart : (document.printed (level + 1) startsLine).2.atLineStart =
    (document.printed level startsLine).2.atLineStart

theorem Document.shifts {document : Document} (oneLined : document.OneLined) (level : Nat)
    (startsLine : Bool) : Shifts document level startsLine := by
  constructor
  · rw [printed_eq]
  · rw [printed_eq]
  · rw [printed_eq, printed_eq, Sink.written_add, Sink.written_add, indentLines_source oneLined]
    rfl
  · rw [printed_eq, printed_eq]

/-- Values and members whose names and types are one line each are printed one level deeper as
before, with two spaces before every line that begins in them and is not empty. -/
theorem layout_shifts (level : Nat) (startsLine : Bool) :
    (∀ value : Value, value.OneLined → Shifts value.layout level startsLine) ∧
    ∀ member : Member, member.OneLined → Shifts member.layout level startsLine :=
  ⟨fun value oneLined => Document.shifts (value.oneLined_layout oneLined) level startsLine,
    fun _ oneLined => Document.shifts (Member.oneLined_layout oneLined) level startsLine⟩

/-- A cast that breaks its line, around a call with an object and a string of two lines. -/
def registration : Value :=
  .cast "Handle" (.call "register"
    [.object [.mk (.quoted "new") (.string "one\ntwo"), .mk (.bare "retry") (.boolean false)],
      .identifier "grpc.server"])

/-- A comment with an empty line. -/
def remark : Member :=
  .comment "// One.\n\n// Two.\n"

theorem layout_shifts_registration :
    registration.OneLined ∧ Shifts registration.layout 2 false ∧
      remark.OneLined ∧ Shifts remark.layout 2 true := by
  have words : Text.OneLine "Handle" ∧ Text.OneLine "register" ∧ Text.OneLine "retry" ∧
      Text.OneLine "grpc.server" := by decide
  obtain ⟨handle, register, retry, server⟩ := words
  have value : registration.OneLined :=
    ⟨handle, register, ⟨⟨trivial, trivial⟩, ⟨retry, trivial⟩, trivial⟩, server, trivial⟩
  exact ⟨value, (layout_shifts 2 false).1 registration value, trivial,
    (layout_shifts 2 true).2 remark trivial⟩

end GrpcBindings

import GrpcBindings.ImportBlock
import GrpcBindings.Proofs.Indentation
import GrpcBindings.Proofs.SchemaPath
import GrpcBindings.Proofs.Text.StringLiteral

/-!
The string literals of items. The specifier of an import, string values and quoted keys are printed
between single quotes, so a script reads them as the texts that the item holds, as long as these
have no carriage return. The paths of schema files may have one, and then the imports of their
messages are no literals.
-/

namespace GrpcBindings

def Key.literals : Key → List Text
  | bare _ => []
  | quoted name => [name]

mutual

/-- The texts that a value holds for literals, in the order in which they are printed. -/
def Value.literals : Value → List Text
  | .string content => [content]
  | .identifier _ | .boolean _ => []
  | .object entries => Entry.allLiterals entries
  | .cast _ value => value.literals
  | .call _ arguments => Value.allLiterals arguments

def Entry.literals : Entry → List Text
  | .mk key value => key.literals ++ value.literals

def Entry.allLiterals : List Entry → List Text
  | [] => []
  | first :: rest => first.literals ++ Entry.allLiterals rest

def Value.allLiterals : List Value → List Text
  | [] => []
  | first :: rest => first.literals ++ Value.allLiterals rest

end

def Member.literals : Member → List Text
  | .property key _ | .method key _ _ _ => key.literals
  | .comment _ | .construct _ _ | .gap => []

def Item.literals : Item → List Text
  | .namespaceImport _ specifier => [specifier]
  | .interface _ _ members => members.flatMap Member.literals
  | .constant _ _ value => value.literals
  | .comment _ | .function _ _ _ _ | .blank => []

namespace Text

/-- Literals with these values stand in a text, one after another. -/
inductive Denotes : List Text → Text → Prop where
  | none (t : Text) : Denotes [] t
  | next {value : Text} {values : List Text} {literal after : Text} (before : Text)
      (reads : StringLiteral literal value.codeUnits after) (others : Denotes values after) :
      Denotes (value :: values) (before ++ literal)

/-- These texts stand in a text between single quotes, one after another. -/
inductive Quotes : List Text → Text → Prop where
  | none (t : Text) : Quotes [] t
  | next {content : Text} {contents : List Text} {after : Text} (before : Text)
      (others : Quotes contents after) :
      Quotes (content :: contents) (before ++ (content.singleQuoted ++ after))

namespace Quotes

theorem prepend {contents : List Text} {t : Text} (quotes : Quotes contents t) (before : Text) :
    Quotes contents (before ++ t) := by
  cases quotes with
  | none => exact none _
  | next between others =>
      rw [← List.append_assoc]
      exact next _ others

theorem append {contents more : List Text} {t u : Text} (first : Quotes contents t)
    (second : Quotes more u) : Quotes (contents ++ more) (t ++ u) := by
  induction first with
  | none t => exact second.prepend t
  | next before _ ih =>
      rw [List.append_assoc, List.append_assoc]
      exact next before ih

theorem extend {contents : List Text} {t : Text} (quotes : Quotes contents t) (after : Text) :
    Quotes contents (t ++ after) := by
  have both := quotes.append (none after)
  rwa [List.append_nil] at both

theorem singleQuoted (t : Text) : Quotes [t] t.singleQuoted := by
  have alone : Quotes [t] ([] ++ (t.singleQuoted ++ [])) := next [] (none [])
  rwa [List.nil_append, List.append_nil] at alone

/-- What stands between quotes is read as it is, unless it breaks the line of the script. -/
theorem denotes {contents : List Text} {t : Text} (quotes : Quotes contents t)
    (noReturn : ∀ content ∈ contents, '\r' ∉ content) : Denotes contents t := by
  induction quotes with
  | none t => exact .none t
  | next before _ ih =>
      rw [List.forall_mem_cons] at noReturn
      refine .next before ?_ (ih noReturn.2)
      exact (stringLiteral_singleQuoted_iff _ _ _ _).mpr ⟨noReturn.1, rfl, rfl⟩

end Quotes

end Text

/-- Wherever a document is printed, these texts stand in it between single quotes. -/
def Document.Quotes (contents : List Text) (document : Document) : Prop :=
  ∀ level startsLine, Text.Quotes contents (document.source level startsLine)

namespace Document.Quotes

variable {contents more : List Text} {first second : Document}

theorem none (document : Document) : document.Quotes [] :=
  fun _ _ => .none _

theorem append (quotes : first.Quotes contents) (others : second.Quotes more) :
    (first ++ second).Quotes (contents ++ more) :=
  fun level startsLine => (quotes level startsLine).append (others level _)

theorem before (quotes : second.Quotes contents) (first : Document) :
    (first ++ second).Quotes contents :=
  (none first).append quotes

theorem behind (quotes : first.Quotes contents) (second : Document) :
    (first ++ second).Quotes contents := by
  have both := quotes.append (none second)
  rwa [List.append_nil] at both

theorem indented (quotes : first.Quotes contents) : (Document.indented first).Quotes contents :=
  fun level startsLine => quotes (level + 1) startsLine

theorem text {t : Text} (quotes : Text.Quotes contents t) : (Document.text t).Quotes contents := by
  intro level startsLine
  cases t with
  | nil => exact quotes
  | cons c rest => exact quotes.prepend _

theorem line {t : Text} (quotes : Text.Quotes contents t) : (Document.line t).Quotes contents :=
  (text quotes).behind _

theorem concat {α : Type} {layout : α → Document} {literals : α → List Text}
    (each : ∀ x, (layout x).Quotes (literals x)) (xs : List α) :
    (Document.concat (xs.map layout)).Quotes (xs.flatMap literals) := by
  induction xs with
  | nil => exact none _
  | cons x rest ih => exact (each x).append ih

end Document.Quotes

open Document

theorem Key.quotes_text (key : Key) : Text.Quotes key.literals key.text := by
  cases key with
  | bare name => exact .none name
  | quoted name => exact .singleQuoted name

mutual

theorem Value.quotes_layout (value : Value) : value.layout.Quotes value.literals := by
  cases value with
  | identifier name => exact .none _
  | string content => exact .text (.singleQuoted content)
  | boolean flag => exact .none _
  | object entries =>
      have inside := (Entry.quotes_layoutAll entries).indented
      cases entries with
      | nil => exact .none _
      | cons first rest => exact (inside.before _).behind _
  | cast type value =>
      refine Quotes.before ?_ _
      split
      · exact Value.quotes_layout value
      · exact (Value.quotes_layout value).indented.before _
  | call callee arguments =>
      exact (Quotes.before (Value.quotes_argumentsLayout true arguments) _).behind _

theorem Entry.quotes_layout (entry : Entry) : entry.layout.Quotes entry.literals := by
  cases entry with
  | mk key value =>
      exact ((Quotes.text (key.quotes_text.extend ": ")).append
        (Value.quotes_layout value)).behind _

theorem Entry.quotes_layoutAll (entries : List Entry) :
    (Entry.layoutAll entries).Quotes (Entry.allLiterals entries) := by
  cases entries with
  | nil => exact .none _
  | cons first rest =>
      exact (Entry.quotes_layout first).append (Entry.quotes_layoutAll rest)

theorem Value.quotes_argumentsLayout (isFirst : Bool) (arguments : List Value) :
    (Value.argumentsLayout isFirst arguments).Quotes (Value.allLiterals arguments) := by
  cases arguments with
  | nil => exact .none _
  | cons first rest =>
      exact ((Value.quotes_layout first).before _).append (Value.quotes_argumentsLayout false rest)

end

theorem Member.quotes_layout (member : Member) : member.layout.Quotes member.literals := by
  cases member with
  | comment _ | construct _ _ | gap => exact .none _
  | property key type =>
      exact .line (((key.quotes_text.extend ": ").extend type).extend ";")
  | method key parameters returns layout => exact (Quotes.line key.quotes_text).behind _

namespace Item

theorem quotes_initializerLayout (value : Value) :
    (initializerLayout value).Quotes value.literals := by
  cases value with
  | object entries =>
      exact ((Entry.quotes_layoutAll entries).indented.before _).behind _
  | identifier _ | string _ | boolean _ | cast _ _ | call _ _ =>
      exact (Value.quotes_layout _).behind _

theorem quotes_layout (item : Item) : item.layout.Quotes item.literals := by
  cases item with
  | comment _ | function _ _ _ _ | blank => exact .none _
  | namespaceImport importAlias specifier =>
      exact .line (((Text.Quotes.singleQuoted specifier).prepend _).extend ";")
  | interface name extended members =>
      exact ((Quotes.concat Member.quotes_layout members).indented.before _).behind _
  | constant name type value =>
      exact ((quotes_initializerLayout value).before _).behind _

end Item

theorem SchemaPath.return_mem_messageModule (path : Text) :
    '\r' ∈ messageModule path ↔ '\r' ∈ path := by
  obtain ⟨extension, known, same⟩ := exists_extension path
  have noReturn : '\r' ∉ extension := by
    simp only [List.mem_cons, List.not_mem_nil, or_false] at known
    rcases known with rfl | rfl | rfl <;> decide
  have suffix : '\r' ∉ ("_pb" : Text) := by decide
  conv_rhs => rw [same, List.mem_append, or_iff_left noReturn]
  rw [messageModule, List.mem_append, or_iff_left suffix]

theorem SchemaPath.return_mem_relative (source target : Text) :
    '\r' ∈ relative source target ↔ '\r' ∈ target := by
  unfold relative
  split
  · exact (List.mem_append.trans (or_iff_right (by decide)))
  · rw [List.mem_append, or_iff_right]
    intro member
    obtain ⟨up, upMember, inUp⟩ := List.mem_flatten.mp member
    rw [List.eq_of_mem_replicate upMember] at inUp
    exact absurd inUp (by decide)

/-- What stands between quotes is read by a script as the text if it has no carriage return, and is
no literal otherwise. The value determines the text. So the literals of an item denote the texts
that it holds, if none of these has a carriage return, and an import of messages holds one only if
the path of the schema file does. -/
theorem literals_denote (t : Text) (item : Item) (level : Nat) (startsLine : Bool) :
    (∀ (rest : Text) (value : List Nat) (after : Text),
      Text.StringLiteral (t.singleQuoted ++ rest) value after ↔
        '\r' ∉ t ∧ value = t.codeUnits ∧ after = rest) ∧
    (∀ other : Text, other.codeUnits = t.codeUnits → other = t) ∧
    ((∀ content ∈ item.literals, '\r' ∉ content) →
      Text.Denotes item.literals (item.layout.printed level startsLine).2.sink.written) ∧
    ∀ importer : Text,
      (∀ content ∈ (messageImport importer t).literals, '\r' ∉ content) ↔ '\r' ∉ t := by
  refine ⟨Text.stringLiteral_singleQuoted_iff t, fun _ same => Text.codeUnits_injective same, ?_,
    ?_⟩
  · intro noReturn
    rw [Document.printed_eq, Sink.written_add]
    exact ((item.quotes_layout level startsLine).prepend _).denotes noReturn
  · intro importer
    rw [messageImport, Item.literals, List.forall_mem_singleton, SchemaPath.return_mem_relative,
      SchemaPath.return_mem_messageModule]

/-- A constant with a quoted key, and with backslashes, quotes and a line feed in its string. -/
def motto : Item :=
  .constant "motto" none (.object [.mk (.quoted "new") (.string "it's \\'\\\n")])

theorem literals_denote_motto :
    motto.literals = ["new", "it's \\'\\\n"] ∧
      Text.Denotes motto.literals (motto.layout.printed 0 true).2.sink.written :=
  ⟨rfl, (literals_denote "new" motto 0 true).2.2.1 (by decide)⟩

/-- A path that is accepted, with a carriage return. -/
def payroll : Text :=
  "pay\rroll.proto"

theorem payroll_import_is_no_literal :
    SchemaPath.check payroll = .ok () ∧
      (messageImport payroll payroll).literals = ["./pay\rroll_pb"] ∧
      ((messageImport payroll payroll).layout.printed 0 true).2.sink.written =
        "import * as pay$u000droll_pb from " ++ Text.singleQuoted "./pay\rroll_pb" ++ ";\n" ∧
      ∀ (rest : Text) (value : List Nat) (after : Text),
        ¬ Text.StringLiteral (Text.singleQuoted "./pay\rroll_pb" ++ rest) value after := by
  refine ⟨by decide, by decide, by decide, ?_⟩
  intro rest value after literal
  exact ((Text.stringLiteral_singleQuoted_iff _ _ _ _).mp literal).1 (by decide)

end GrpcBindings

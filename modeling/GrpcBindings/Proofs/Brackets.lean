import GrpcBindings.Proofs.SinkLimit
import GrpcBindings.Proofs.Text.Brackets

/-!
The brackets of items. Printing puts none but those of the texts of a document, whatever the level,
and every item closes what it opens. So items whose names, types and other texts are balanced are
printed as balanced text.
-/

namespace GrpcBindings

def Key.name : Key → Text
  | bare name | quoted name => name

def Parameter.leaves (parameter : Parameter) : List Text :=
  [parameter.name, parameter.type]

mutual

/-- The texts that a value is made of, as they are before any is put between quotes. -/
def Value.leaves : Value → List Text
  | .identifier name => [name]
  | .string content => [content]
  | .boolean _ => []
  | .object entries => Entry.allLeaves entries
  | .cast type value => type :: value.leaves
  | .call callee arguments => callee :: Value.allLeaves arguments

def Entry.leaves : Entry → List Text
  | .mk key value => key.name :: value.leaves

def Entry.allLeaves : List Entry → List Text
  | [] => []
  | first :: rest => first.leaves ++ Entry.allLeaves rest

def Value.allLeaves : List Value → List Text
  | [] => []
  | first :: rest => first.leaves ++ Value.allLeaves rest

end

def Member.leaves : Member → List Text
  | .comment block => [block]
  | .property key type => [key.name, type]
  | .method key parameters returns _ =>
      key.name :: returns :: parameters.flatMap Parameter.leaves
  | .construct parameters returns => returns :: parameters.flatMap Parameter.leaves
  | .gap => []

/-- The texts that an item is made of. A comment block is one text and a statement is one. -/
def Item.leaves : Item → List Text
  | .comment block => [block]
  | .namespaceImport importAlias specifier => [importAlias, specifier]
  | .function name parameters returns body =>
      name :: returns :: (parameters.flatMap Parameter.leaves ++ body)
  | .interface name extended members => name :: (extended.toList ++ members.flatMap Member.leaves)
  | .constant name type value => name :: (type.toList ++ value.leaves)
  | .blank => []

namespace Document

/-- The brackets of a document, in the order in which they are printed. -/
def brackets : Document → Text
  | text t => t.brackets
  | lineBreak => []
  | indented body => body.brackets
  | append first second => first.brackets ++ second.brackets

/-- Where a document is printed makes no difference to its brackets. -/
theorem brackets_source (document : Document) (level : Nat) (startsLine : Bool) :
    (document.source level startsLine).brackets = document.brackets := by
  induction document generalizing level startsLine with
  | text t =>
      cases t with
      | nil => rfl
      | cons c rest =>
          have margin : (Printer.margin level).brackets = [] := by
            apply Text.brackets_eq_nil
            intro c member
            rw [Printer.eq_space_of_mem_margin member]
            decide
          rw [source, Text.brackets_append]
          cases startsLine with
          | true => exact congrArg (· ++ _) margin
          | false => rfl
  | lineBreak => rfl
  | indented body ih => exact ih (level + 1) startsLine
  | append first second ihf ihs => rw [source, Text.brackets_append, ihf, ihs, brackets]

theorem brackets_append (first second : Document) :
    (first ++ second).brackets = first.brackets ++ second.brackets := rfl

theorem brackets_line (t : Text) : (line t).brackets = t.brackets :=
  List.append_nil _

theorem brackets_concat_line (lines : List Text) :
    (concat (lines.map line)).brackets = lines.flatMap Text.brackets := by
  induction lines with
  | nil => rfl
  | cons first rest ih =>
      rw [List.map_cons, concat, brackets_append, brackets_line, ih, List.flatMap_cons]

/-- A document closes the brackets that it opens. -/
def Balanced (document : Document) : Prop :=
  Text.Balanced document.brackets

theorem Balanced.append {first second : Document} (before : first.Balanced)
    (behind : second.Balanced) : (first ++ second).Balanced :=
  Text.Balanced.append before behind

theorem Balanced.text {t : Text} (balanced : t.Balanced) : (Document.text t).Balanced :=
  balanced.brackets

theorem Balanced.line {t : Text} (balanced : t.Balanced) : (Document.line t).Balanced :=
  append (text balanced) .empty

theorem Balanced.braced {body : Document} (balanced : body.Balanced) :
    (GrpcBindings.braced body).Balanced :=
  Text.Balanced.enclosed (by decide) balanced .empty

/-- A block on its own lines. Its head has the opening brace at its end. -/
theorem Balanced.block {head : Text} {body : Document} (before : head.Balanced)
    (balanced : body.Balanced) :
    (Document.line (head ++ " \x7b") ++ Document.indented body ++
      Document.line "\x7d").Balanced := by
  -- The brace is opened on one line and closed on another, so neither line is balanced.
  have shape : (Document.line (head ++ " \x7b") ++ Document.indented body ++
      Document.line "\x7d").brackets = head.brackets ++ '\x7b' :: (body.brackets ++ ['\x7d']) := by
    simp only [brackets_append, brackets_line, Text.brackets_append, List.append_assoc]
    rfl
  rw [Document.Balanced, shape]
  exact before.brackets.append (.enclosed (by decide) balanced .empty)

theorem Balanced.concat {documents : List Document}
    (each : ∀ document ∈ documents, document.Balanced) : (Document.concat documents).Balanced := by
  induction documents with
  | nil => exact .empty
  | cons first rest ih =>
      rw [List.forall_mem_cons] at each
      exact append each.1 (ih each.2)

end Document

open Document

theorem Key.balanced_text {key : Key} (balanced : key.name.Balanced) : key.text.Balanced := by
  cases key with
  | bare name => exact balanced
  | quoted name => exact balanced.singleQuoted

theorem Parameter.balanced_text {parameter : Parameter}
    (balanced : ∀ leaf ∈ parameter.leaves, leaf.Balanced) : parameter.text.Balanced := by
  rw [leaves, List.forall_mem_cons, List.forall_mem_singleton] at balanced
  have between : (Text.ofString (if parameter.isOptional then "?: " else ": ")).Balanced := by
    cases parameter.isOptional <;> decide
  exact (balanced.1.append between).append balanced.2

theorem Parameter.balanced_inlineText {parameters : List Parameter}
    (balanced : ∀ leaf ∈ parameters.flatMap leaves, leaf.Balanced) :
    (inlineText parameters).Balanced := by
  apply Text.Balanced.join (by decide)
  rw [List.forall_mem_map]
  rw [List.forall_mem_flatMap] at balanced
  exact fun parameter member => balanced_text (balanced parameter member)

/-- Brackets may be opened on one line of a block and closed on another. -/
theorem balanced_commentLayout {block : Text} (balanced : block.Balanced) :
    (commentLayout block).Balanced := by
  rw [Document.Balanced, commentLayout, brackets_concat_line, Text.brackets_lines]
  exact balanced.brackets

mutual

theorem Value.balanced_layout (value : Value) (balanced : ∀ leaf ∈ value.leaves, leaf.Balanced) :
    value.layout.Balanced := by
  cases value with
  | identifier name => exact .text (balanced name List.mem_cons_self)
  | string content => exact .text (balanced content List.mem_cons_self).singleQuoted
  | boolean flag =>
      have word : Text.Balanced (if flag then "true" else "false") := by
        cases flag <;> decide
      exact .text word
  | object entries =>
      rw [Value.layout]
      split
      · exact .text (by decide)
      · exact .braced (Entry.balanced_layoutAll entries balanced)
  | cast type value =>
      rw [Value.leaves, List.forall_mem_cons] at balanced
      have inner := Value.balanced_layout value balanced.2
      have asserted : Text.Balanced ("<" ++ type ++ ">") := .enclosed (by decide) balanced.1 .empty
      refine .append (.text asserted) ?_
      split
      · exact inner
      · exact inner
  | call callee arguments =>
      rw [Value.leaves, List.forall_mem_cons] at balanced
      have inside := Value.balanced_argumentsLayout true arguments balanced.2
      have shape : (Value.call callee arguments).layout.brackets = callee.brackets ++
          '(' :: ((Value.argumentsLayout true arguments).brackets ++ [')']) := by
        simp only [Value.layout, brackets_append, List.append_assoc]
        rfl
      rw [Document.Balanced, shape]
      exact balanced.1.brackets.append (.enclosed (by decide) inside .empty)

theorem Entry.balanced_layout (entry : Entry) (balanced : ∀ leaf ∈ entry.leaves, leaf.Balanced) :
    entry.layout.Balanced := by
  cases entry with
  | mk key value =>
      rw [Entry.leaves, List.forall_mem_cons] at balanced
      have lead : (key.text ++ ": ").Balanced := (Key.balanced_text balanced.1).append (by decide)
      exact .append (.append (.text lead) (Value.balanced_layout value balanced.2))
        (.line (by decide))

theorem Entry.balanced_layoutAll (entries : List Entry)
    (balanced : ∀ leaf ∈ Entry.allLeaves entries, leaf.Balanced) :
    (Entry.layoutAll entries).Balanced := by
  cases entries with
  | nil => exact .empty
  | cons first rest =>
      rw [Entry.allLeaves, List.forall_mem_append] at balanced
      exact .append (Entry.balanced_layout first balanced.1)
        (Entry.balanced_layoutAll rest balanced.2)

theorem Value.balanced_argumentsLayout (isFirst : Bool) (arguments : List Value)
    (balanced : ∀ leaf ∈ Value.allLeaves arguments, leaf.Balanced) :
    (Value.argumentsLayout isFirst arguments).Balanced := by
  cases arguments with
  | nil => exact .empty
  | cons first rest =>
      rw [Value.allLeaves, List.forall_mem_append] at balanced
      have comma : (if isFirst then Document.empty else Document.text ", ").Balanced := by
        cases isFirst
        · exact .text (by decide)
        · exact .empty
      exact .append (.append comma (Value.balanced_layout first balanced.1))
        (Value.balanced_argumentsLayout false rest balanced.2)

end

/-- Parameters between parentheses and a result, behind a name or a keyword. -/
theorem balanced_signature {lead inside returns : Text} (before : lead.Balanced)
    (balanced : inside.Balanced) (result : returns.Balanced) :
    Text.Balanced (lead ++ "(" ++ inside ++ "): " ++ returns) := by
  have shape : (lead ++ "(" ++ inside ++ "): " ++ returns : Text) =
      lead ++ '(' :: (inside ++ ')' :: (": " ++ returns)) := by
    simp only [List.append_assoc]
    rfl
  have colon : Text.Balanced ": " := by decide
  rw [shape]
  exact before.append (.enclosed (by decide) balanced (colon.append result))

namespace Member

theorem balanced_parametersLayout {parameters : List Parameter} {returns : Text}
    (balanced : ∀ leaf ∈ parameters.flatMap Parameter.leaves, leaf.Balanced)
    (result : returns.Balanced) (layout : ParameterLayout) :
    (parametersLayout parameters returns layout).Balanced := by
  have semicolon : Text.Balanced ";" := by decide
  cases layout with
  | inline =>
      have inside := Parameter.balanced_inlineText balanced
      exact .line ((balanced_signature .empty inside result).append semicolon)
  | stacked =>
      cases parameters with
      | nil => exact .line ((balanced_signature .empty .empty result).append semicolon)
      | cons first rest =>
          rw [List.forall_mem_flatMap, List.forall_mem_cons] at balanced
          have comma : Text.Balanced ", " := by decide
          have others : (concat (rest.map fun other => line (", " ++ other.text))).Balanced := by
            apply Document.Balanced.concat
            rw [List.forall_mem_map]
            exact fun other member =>
              .line (comma.append (Parameter.balanced_text (balanced.2 other member)))
          -- The parentheses begin lines of their own, around those of the parameters.
          have shape (others : Document) :
              (line ("( " ++ first.text) ++ others ++ line ("): " ++ returns ++ ";")).brackets =
                '(' :: ((first.text.brackets ++ others.brackets) ++
                  ')' :: Text.brackets (returns ++ ";")) := by
            simp only [brackets_append, brackets_line, Text.brackets_append, List.append_assoc]
            rfl
          have inside := (Parameter.balanced_text balanced.1).brackets.append others
          rw [Document.Balanced, parametersLayout, shape]
          exact .enclosed (by decide) inside (result.append semicolon).brackets

theorem balanced_layout (member : Member) (balanced : ∀ leaf ∈ member.leaves, leaf.Balanced) :
    member.layout.Balanced := by
  cases member with
  | comment block => exact balanced_commentLayout (balanced block List.mem_cons_self)
  | gap => exact .line .empty
  | property key type =>
      rw [leaves, List.forall_mem_cons, List.forall_mem_singleton] at balanced
      have name := Key.balanced_text balanced.1
      exact .line (((name.append (by decide)).append balanced.2).append (by decide))
  | method key parameters returns layout =>
      rw [leaves, List.forall_mem_cons, List.forall_mem_cons] at balanced
      exact .append (.line (Key.balanced_text balanced.1))
        (balanced_parametersLayout balanced.2.2 balanced.2.1 layout)
  | construct parameters returns =>
      rw [leaves, List.forall_mem_cons] at balanced
      have inside := Parameter.balanced_inlineText balanced.2
      have keyword : Text.Balanced "new " := by decide
      exact .line ((balanced_signature keyword inside balanced.1).append (by decide))

end Member

namespace Item

theorem balanced_initializerLayout (value : Value)
    (balanced : ∀ leaf ∈ value.leaves, leaf.Balanced) : (initializerLayout value).Balanced := by
  cases value with
  | object entries => exact .braced (Entry.balanced_layoutAll entries balanced)
  | identifier _ | string _ | boolean _ | cast _ _ | call _ _ =>
      exact .append (Value.balanced_layout _ balanced) (.text (by decide))

theorem balanced_layout (item : Item) (balanced : ∀ leaf ∈ item.leaves, leaf.Balanced) :
    item.layout.Balanced := by
  cases item with
  | comment block => exact balanced_commentLayout (balanced block List.mem_cons_self)
  | blank => exact .line .empty
  | namespaceImport importAlias specifier =>
      rw [leaves, List.forall_mem_cons, List.forall_mem_singleton] at balanced
      have keywords : Text.Balanced "import * as " := by decide
      have between : Text.Balanced " from " := by decide
      exact .line ((((keywords.append balanced.1).append between).append
        balanced.2.singleQuoted).append (by decide))
  | function name parameters returns body =>
      rw [leaves, List.forall_mem_cons, List.forall_mem_cons, List.forall_mem_append] at balanced
      obtain ⟨named, result, parameterLeaves, statements⟩ := balanced
      have keyword : Text.Balanced "function " := by decide
      have inside := Parameter.balanced_inlineText parameterLeaves
      refine .block (balanced_signature (keyword.append named) inside result) (.concat ?_)
      rw [List.forall_mem_map]
      exact fun statement member => .line (statements statement member)
  | interface name extended members =>
      rw [leaves, List.forall_mem_cons, List.forall_mem_append, List.forall_mem_flatMap] at balanced
      obtain ⟨named, base, inside⟩ := balanced
      have keywords : Text.Balanced "export interface " := by decide
      have keyword : Text.Balanced " extends " := by decide
      refine .block ((keywords.append named).append ?_) (.concat ?_)
      · cases extended with
        | none => exact .empty
        | some other => exact keyword.append (base other List.mem_cons_self)
      · rw [List.forall_mem_map]
        exact fun member known => Member.balanced_layout member (inside member known)
  | constant name type value =>
      rw [leaves, List.forall_mem_cons, List.forall_mem_append] at balanced
      obtain ⟨named, typed, inside⟩ := balanced
      have keywords : Text.Balanced "export const " := by decide
      have colon : Text.Balanced ": " := by decide
      have equals : Text.Balanced " = " := by decide
      refine .append (.append (.text (((keywords.append named).append ?_).append equals))
        (balanced_initializerLayout value inside)) .empty
      cases type with
      | none => exact .empty
      | some type => exact colon.append (typed type List.mem_cons_self)

/-- Items whose names, types and other texts are balanced are printed as balanced text. Nothing of
it is missing from a sink if printing to it succeeds. -/
theorem balanced_rendering {items : List Item}
    (balanced : ∀ item ∈ items, ∀ leaf ∈ item.leaves, leaf.Balanced) :
    (rendering items).Balanced ∧ Prints (printAll items) (.ok ()) (rendering items) ∧
      ∀ sink after, printAll items (.ofSink sink) = (.ok (), after) →
        after.sink.written = sink.written ++ rendering items := by
  refine ⟨?_, prints_printAll items, fun _ _ => written_of_printAll⟩
  rw [rendering_eq]
  apply Text.Balanced.flatMap
  intro item member
  rw [← Text.balanced_brackets, source, Document.brackets_source]
  exact balanced_layout item (balanced item member)

/-- A comment with brackets over two lines, and brackets in types, a statement and a string. -/
def toolbox : List Item :=
  [.comment "// Sorted (by name,\n// then by <id>).\n",
    .function "open" [{ name := "box", type := "Box<(Tool)>" }] "\x7b\x7d"
      ["if (box) \x7b return box; \x7d"],
    .interface "Tools" (some "Base<Tool>")
      [.method (.bare "pick") [{ name := "first", type := "Tool" },
        { name := "others", type := "Set<Tool>", isOptional := true }] "void" .stacked,
      .construct [] "Tools"],
    .constant "tools" none (.cast "Tools" (.call "make"
      [.object [.mk (.quoted "new") (.string "it's <fine>"), .mk (.bare "count") (.object [])]]))]

theorem balanced_rendering_toolbox :
    (∀ item ∈ toolbox, ∀ leaf ∈ item.leaves, leaf.Balanced) ∧ (rendering toolbox).Balanced := by
  have balanced : ∀ item ∈ toolbox, ∀ leaf ∈ item.leaves, leaf.Balanced := by decide
  exact ⟨balanced, (balanced_rendering balanced).1⟩

end Item
end GrpcBindings

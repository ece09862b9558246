import GrpcBindings.Proofs.Comment
import GrpcBindings.ServiceContract

/-!
The code in a text: its lines without those that are empty or comments. Text that ends its last line
has its code before that of the text behind it, so the code of a module is that of its items, and
comment blocks have none, wherever they stand. Actions that print the same code stay alike when they
follow each other.
-/

namespace GrpcBindings
namespace Text

/-- The lines between line feeds that are neither empty nor comments. -/
def codeLines (t : Text) : List Text :=
  (t.splitOn '\n').filter fun line => !line.isEmpty && !line.isCommentLine

/-- Nothing stands behind the last line feed. -/
def EndsLine (t : Text) : Prop :=
  t = [] ∨ ∃ init, t = init ++ ['\n']

theorem EndsLine.append {t u : Text} (first : EndsLine t) (second : EndsLine u) :
    EndsLine (t ++ u) := by
  rcases second with rfl | ⟨init, rfl⟩
  · rwa [List.append_nil]
  · exact .inr ⟨t ++ init, (List.append_assoc t init ['\n']).symm⟩

theorem endsLine_flatMap {α : Type} {f : α → Text} (xs : List α)
    (each : ∀ x ∈ xs, EndsLine (f x)) : EndsLine (xs.flatMap f) := by
  induction xs with
  | nil => exact .inl rfl
  | cons x rest ih =>
      rw [List.forall_mem_cons] at each
      rw [List.flatMap_cons]
      exact each.1.append (ih each.2)

theorem codeLines_append {t : Text} (ends : EndsLine t) (u : Text) :
    codeLines (t ++ u) = t.codeLines ++ u.codeLines := by
  rcases ends with rfl | ⟨init, rfl⟩
  · rfl
  · rw [codeLines, codeLines, codeLines, List.append_assoc, List.singleton_append,
      List.splitOn_append_cons_self, List.splitOn_append_cons_self, List.filter_append,
      List.filter_append, List.splitOn_nil]
    exact congrArg (· ++ _) (List.append_nil _).symm

theorem codeLines_flatMap {α : Type} {f : α → Text} (xs : List α)
    (each : ∀ x ∈ xs, EndsLine (f x)) :
    codeLines (xs.flatMap f) = xs.flatMap fun x => (f x).codeLines := by
  induction xs with
  | nil => rfl
  | cons x rest ih =>
      rw [List.forall_mem_cons] at each
      rw [List.flatMap_cons, List.flatMap_cons, codeLines_append each.1, ih each.2]

theorem codeLines_commentLine {line : Text} (oneLine : '\n' ∉ line)
    (comment : line.isCommentLine = true) : codeLines (line ++ "\n") = [] := by
  have single : (line ++ ('\n' :: [])).splitOn '\n' = [line, []] := by
    rw [List.splitOn_append_cons_self, List.splitOn_eq_singleton oneLine, List.splitOn_nil]
    rfl
  rw [codeLines, show ofString "\n" = '\n' :: [] from rfl, single]
  simp [comment]

end Text

namespace Document

/-- Behind a document that ends its line, nothing stands on the line. -/
theorem source_of_endsLine (document : Document) (level : Nat) (startsLine : Bool)
    (ends : document.endsLine startsLine = true) :
    document.source level startsLine = [] ∧ startsLine = true ∨
      ∃ init, document.source level startsLine = init ++ ['\n'] := by
  induction document generalizing level startsLine with
  | text t =>
      cases t with
      | nil =>
          rw [endsLine, List.isEmpty_nil, Bool.and_true] at ends
          exact .inl ⟨rfl, ends⟩
      | cons c rest =>
          rw [endsLine, List.isEmpty_cons, Bool.and_false] at ends
          cases ends
  | lineBreak => exact .inr ⟨[], rfl⟩
  | indented body ih => exact ih (level + 1) startsLine ends
  | append first second ihf ihs =>
      rw [source]
      rcases ihs level (first.endsLine startsLine) ends with ⟨none, before⟩ | ⟨init, text⟩
      · rw [none, List.append_nil]
        exact ihf level startsLine before
      · rw [text]
        exact .inr ⟨_, (List.append_assoc _ init ['\n']).symm⟩

theorem endsLine_source {document : Document} (ends : document.endsLine true = true)
    (level : Nat) : Text.EndsLine (document.source level true) :=
  (document.source_of_endsLine level true ends).imp_left And.left

/-- The code of a document on lines of its own. -/
def code (document : Document) (level : Nat) : List Text :=
  (document.source level true).codeLines

theorem code_append {first : Document} (ends : first.endsLine true = true) (second : Document)
    (level : Nat) : (first ++ second).code level = first.code level ++ second.code level := by
  rw [code, source_append, ends, Text.codeLines_append (endsLine_source ends level)]
  rfl

theorem code_concat (documents : List Document) (level : Nat)
    (each : ∀ document ∈ documents, document.endsLine true = true) :
    (concat documents).code level = documents.flatMap (·.code level) := by
  rw [code, source_concat documents level each]
  exact Text.codeLines_flatMap documents fun document member =>
    endsLine_source (each document member) level

end Document

/-- A block has no code if all its lines are comments. -/
theorem code_commentLayout {block : Text} (marked : ∀ line ∈ block.lines, line.isCommentLine = true)
    (level : Nat) : (commentLayout block).code level = [] := by
  rw [commentLayout, Document.code_concat]
  · rw [List.flatMap_eq_nil_iff, List.forall_mem_map]
    intro line member
    have filled : line ≠ [] := by
      rintro rfl
      exact absurd (marked [] member) (by decide)
    rw [Document.code, Document.source_line filled]
    apply Text.codeLines_commentLine
    · rw [List.mem_append, not_or]
      exact ⟨fun newline => absurd (Printer.eq_space_of_mem_margin newline) (by decide),
        Text.newline_not_mem_lines block line member⟩
    · rw [Text.isCommentLine_append fun _ => Printer.eq_space_of_mem_margin]
      exact marked line member
  · rw [List.forall_mem_map]
    exact fun _ _ => rfl

theorem Comment.isCommentLine_of_mem_block (element : Element) (side : CommentSide)
    (comments : Option SourceComments) :
    ∀ line ∈ (block element side comments lineMarker).lines, line.isCommentLine = true := by
  rw [block, lines_format (newline_not_mem_lines element side comments), List.forall_mem_map]
  exact fun _ _ => rfl

/-- The comments of an element are no code, however deep they are indented. -/
theorem code_commentBlock (element : Element) (side : CommentSide)
    (comments : Option SourceComments) (level : Nat) :
    (commentLayout (Comment.block element side comments Comment.lineMarker)).code level = [] :=
  code_commentLayout (Comment.isCommentLine_of_mem_block element side comments) level

namespace Member

/-- The code of a member among others, one level deep. -/
def code (member : Member) : List Text :=
  member.layout.code 1

theorem endsLine_layout (member : Member) : member.layout.endsLine true = true := by
  cases member with
  | comment block => exact Item.endsLine_commentLayout block
  | method _ parameters _ parameterLayout =>
      cases parameterLayout with
      | inline => rfl
      | stacked => cases parameters <;> rfl
  | property _ _ | construct _ _ | gap => rfl

theorem code_concat (members : List Member) :
    (Document.concat (members.map layout)).code 1 = members.flatMap (·.code) := by
  rw [Document.code_concat _ 1 (List.forall_mem_map.mpr fun member _ => member.endsLine_layout),
    List.flatMap_map]
  rfl

end Member

namespace Item

def code (item : Item) : List Text :=
  item.layout.code 0

theorem codeLines_rendering (items : List Item) :
    (rendering items).codeLines = items.flatMap (·.code) := by
  rw [rendering_eq]
  exact Text.codeLines_flatMap items fun item _ => Document.endsLine_source item.endsLine_layout 0

theorem endsLine_rendering (items : List Item) : (rendering items).EndsLine := by
  rw [rendering_eq]
  exact Text.endsLine_flatMap items fun item _ => Document.endsLine_source item.endsLine_layout 0

/-- The code of an interface depends on that of its members. -/
theorem code_interface_congr {members others : List Member}
    (same : members.flatMap (·.code) = others.flatMap (·.code)) (name : Text)
    (extended : Option Text) :
    (interface name extended members).code = (interface name extended others).code := by
  let body (members : List Member) : Document :=
    Document.indented (Document.concat (members.map Member.layout))
  have inner (members : List Member) : (body members).code 0 = members.flatMap (·.code) :=
    Member.code_concat members
  -- The members are between lines of their own, so their code stands apart.
  have parts (head : Text) (members : List Member) :
      (Document.line head ++ body members ++ Document.line "\x7d").code 0 =
        (Document.line head).code 0 ++ members.flatMap (·.code) ++
          (Document.line "\x7d").code 0 := by
    have ends : (Document.line head ++ body members).endsLine true = true :=
      Document.endsLine_concat _ (List.forall_mem_map.mpr fun member _ => member.endsLine_layout)
    rw [Document.code_append ends, Document.code_append rfl, inner]
  refine (parts _ members).trans ?_
  rw [same]
  exact (parts _ others).symm

end Item

/-- Two results that are the same error, or values in a relation. -/
inductive Agree {α β : Type} (related : α → β → Prop) : Except Error α → Except Error β → Prop where
  | error (error : Error) : Agree related (.error error) (.error error)
  | ok {a : α} {b : β} (same : related a b) : Agree related (.ok a) (.ok b)

namespace Agree

variable {α β γ : Type}

theorem refl (result : Except Error α) : Agree Eq result result := by
  cases result with
  | error error => exact .error error
  | ok a => exact .ok rfl

theorem map (f : α → β) (result : Except Error α) :
    Agree (fun b a => b = f a) (result.map f) result := by
  cases result with
  | error error => exact .error error
  | ok a => exact .ok rfl

/-- Two results that agree with a third agree with each other. -/
theorem join {related : α → β → Prop} {other : α → γ → Prop} {joined : β → γ → Prop}
    {common : Except Error α} {first : Except Error β} {second : Except Error γ}
    (left : Agree related common first) (right : Agree other common second)
    (each : ∀ a b c, related a b → other a c → joined b c) : Agree joined first second := by
  cases left with
  | error error =>
      cases right
      exact .error error
  | ok same =>
      cases right with
      | ok otherSame => exact .ok (each _ _ _ same otherSame)

end Agree

/-- Two actions that end with the same result and print, on lines of their own, texts with the same
code. -/
def SameCode (action other : Printing Unit) : Prop :=
  ∃ result t u, Prints action result t ∧ Prints other result u ∧ t.EndsLine ∧ u.EndsLine ∧
    t.codeLines = u.codeLines

namespace SameCode

variable {α : Type} {action other next more : Printing Unit}

theorem of_prints {result : Except Error Unit} {t : Text} (prints : Prints action result t)
    (ends : t.EndsLine) : SameCode action action :=
  ⟨result, t, t, prints, prints, ends, ends, rfl⟩

theorem printAll {items others : List Item}
    (same : items.flatMap (·.code) = others.flatMap (·.code)) :
    SameCode (Item.printAll items) (Item.printAll others) := by
  refine ⟨.ok (), _, _, Item.prints_printAll items, Item.prints_printAll others,
    Item.endsLine_rendering items, Item.endsLine_rendering others, ?_⟩
  rw [Item.codeLines_rendering, Item.codeLines_rendering, same]

/-- If the first actions fail, they fail alike, and neither is followed by anything. -/
theorem bind (first : SameCode action other) (second : SameCode next more) :
    SameCode (do action; next) (do other; more) := by
  obtain ⟨result, t, u, prints, otherPrints, ends, otherEnds, same⟩ := first
  cases result with
  | error error =>
      exact ⟨.error error, t, u, prints.bind_error _, otherPrints.bind_error _, ends, otherEnds,
        same⟩
  | ok _ =>
      obtain ⟨result, v, w, nextPrints, morePrints, nextEnds, moreEnds, sameNext⟩ := second
      refine ⟨result, t ++ v, u ++ w, prints.bind nextPrints, otherPrints.bind morePrints,
        ends.append nextEnds, otherEnds.append moreEnds, ?_⟩
      rw [Text.codeLines_append ends, Text.codeLines_append otherEnds, same, sameNext]

/-- What is computed before anything is printed may differ as long as the code does not. -/
theorem lift_bind {β : Type} {related : α → β → Prop} {computed : Except Error α}
    {other : Except Error β} {print : α → Printing Unit} {reprint : β → Printing Unit}
    (agree : Agree related computed other)
    (each : ∀ a b, related a b → SameCode (print a) (reprint b)) :
    SameCode (liftM computed >>= print) (liftM other >>= reprint) := by
  cases agree with
  | error error =>
      exact ⟨.error error, [], [], Prints.lift_bind_error _ rfl, Prints.lift_bind_error _ rfl,
        .inl rfl, .inl rfl, rfl⟩
  | ok same =>
      obtain ⟨result, t, u, prints, otherPrints, rest⟩ := each _ _ same
      exact ⟨result, t, u, Prints.lift_bind rfl prints, Prints.lift_bind rfl otherPrints, rest⟩

theorem forM {print reprint : α → Printing Unit} (xs : List α)
    (each : ∀ x, SameCode (print x) (reprint x)) :
    SameCode (xs.forM print) (xs.forM reprint) := by
  induction xs with
  | nil => exact of_prints (Prints.pure ()) (.inl rfl)
  | cons x rest ih => exact (each x).bind ih

end SameCode
end GrpcBindings

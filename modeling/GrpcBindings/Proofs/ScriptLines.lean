import GrpcBindings.Proofs.Comment

/-!
Comments as a script reads them. A script has line terminators besides the line feed, and what
follows one of those in a line of a comment is a line of its own. So a comment stays one if and only
if everything that follows a terminator begins like a comment again.
-/

namespace GrpcBindings
namespace Text

/-- The characters that end a line of a script. -/
def isLineTerminator (c : Char) : Bool :=
  c = '\n' || c = '\r' || c = '\u2028' || c = '\u2029'

/-- The lines that a script has in a text. -/
def scriptLines (t : Text) : List Text :=
  t.splitOnP isLineTerminator

/-- A script takes every line of the text for a comment, or it is empty. -/
def OnlyComments (t : Text) : Prop :=
  ∀ line ∈ t.scriptLines, line ≠ [] → line.isCommentLine = true

instance (t : Text) : Decidable (OnlyComments t) :=
  inferInstanceAs (Decidable (∀ line ∈ t.scriptLines, _))

/-- What a script takes for further lines within a text are comments, or empty. -/
def Contained (t : Text) : Prop :=
  ∀ line ∈ t.scriptLines.tail, line ≠ [] → line.isCommentLine = true

theorem scriptLines_append_newline (t rest : Text) :
    scriptLines (t ++ '\n' :: rest) = t.scriptLines ++ rest.scriptLines :=
  List.splitOnP_append_cons t rest rfl

/-- Text without terminators belongs to the first line. -/
theorem scriptLines_append {t : Text} (oneLine : ∀ c ∈ t, isLineTerminator c = false)
    (rest : Text) : scriptLines (t ++ rest) = rest.scriptLines.modifyHead (t ++ ·) :=
  splitOnP_append oneLine rest

theorem onlyComments_append_newline (t rest : Text) :
    OnlyComments (t ++ '\n' :: rest) ↔ OnlyComments t ∧ OnlyComments rest := by
  rw [OnlyComments, scriptLines_append_newline, List.forall_mem_append]
  rfl

/-- Lines one after another are comments if each of them is. -/
theorem onlyComments_flatMap {α : Type} (line : α → Text) (xs : List α) :
    OnlyComments (xs.flatMap fun x => line x ++ "\n") ↔ ∀ x ∈ xs, OnlyComments (line x) := by
  have nothing : OnlyComments [] := by decide
  induction xs with
  | nil => exact iff_of_true nothing (List.forall_mem_nil _)
  | cons x rest ih =>
      rw [List.flatMap_cons, List.append_assoc, List.forall_mem_cons]
      exact (onlyComments_append_newline (line x) _).trans (and_congr_right fun _ => ih)

/-- Behind a marker, a line is a comment as far as a script takes it for one line. -/
theorem onlyComments_marked {lead : Text} (oneLine : ∀ c ∈ lead, isLineTerminator c = false)
    (marked : ∀ rest, isCommentLine (lead ++ rest) = true) (line : Text) :
    OnlyComments (lead ++ line) ↔ Contained line := by
  rw [OnlyComments, Contained, scriptLines_append oneLine]
  cases scriptLines line with
  | nil => rfl
  | cons first more =>
      rw [List.modifyHead_cons, List.forall_mem_cons, List.tail_cons]
      exact and_iff_right fun _ => marked first

theorem contained_of_oneLine {line : Text} (oneLine : ∀ c ∈ line, isLineTerminator c = false) :
    Contained line := by
  rw [Contained, scriptLines, List.splitOnP_eq_singleton oneLine]
  exact List.forall_mem_nil _

/-- A carriage return at the end of a line has nothing behind it. -/
theorem contained_dropReturn (line : Text) : Contained (dropReturn line) ↔ Contained line := by
  rw [dropReturn]
  split
  · next ends =>
      obtain ⟨init, rfl⟩ := List.getLast?_eq_some_iff.mp ends
      rw [List.dropLast_concat, Contained, Contained, scriptLines, scriptLines,
        List.splitOnP_append_cons init [] rfl,
        List.tail_append_of_ne_nil (List.splitOnP_ne_nil _ _), List.forall_mem_append,
        List.splitOnP_nil, List.forall_mem_singleton]
      exact (and_iff_left fun filled => absurd rfl filled).symm
  · rfl

end Text

namespace Comment

/-- Indentation and a marker make a comment of what a script takes for one line. -/
theorem onlyComments_lead (level : Nat) (line rest : Text) :
    Text.OnlyComments (Printer.margin level ++ (lineMarker ++ gap line ++ rest)) ↔
      Text.Contained rest := by
  rw [← List.append_assoc]
  apply Text.onlyComments_marked
  · rw [List.forall_mem_append]
    constructor
    · intro c member
      rw [Printer.eq_space_of_mem_margin member]
      rfl
    · intro c member
      rcases mem_lead line c member with rfl | rfl <;> rfl
  · intro more
    rw [List.append_assoc, List.append_assoc,
      Text.isCommentLine_append fun _ => Printer.eq_space_of_mem_margin]
    exact Text.isCommentLine_marked _

theorem onlyComments_block (element : Element) (side : CommentSide)
    (comments : Option SourceComments) :
    Text.OnlyComments (block element side comments lineMarker) ↔
      ∀ line ∈ lines element side comments, Text.Contained line := by
  simp only [block, format, Text.onlyComments_flatMap, markLine_eq]
  exact forall₂_congr fun line _ => onlyComments_lead 0 line line

theorem onlyComments_printed (element : Element) (side : CommentSide)
    (comments : Option SourceComments) (level : Nat) :
    Text.OnlyComments ((commentLayout (block element side comments lineMarker)).source level true) ↔
      ∀ line ∈ lines element side comments, Text.Contained line := by
  rw [source_commentLayout, Text.onlyComments_flatMap]
  exact forall₂_congr fun line _ =>
    (onlyComments_lead level line _).trans (Text.contained_dropReturn line)

/-- A block and what is printed for it are comments to a script if and only if, in every line of the
comment, only comments follow the line terminators. A line without any is a comment as it is. -/
theorem onlyComments_iff_contained (element : Element) (side : CommentSide)
    (comments : Option SourceComments) :
    (Text.OnlyComments (block element side comments lineMarker) ↔
      ∀ line ∈ lines element side comments, Text.Contained line) ∧
    (∀ level : Nat, ∃ printed : Text,
      (∀ sink : Sink, sink.room = none →
        (commentLayout (block element side comments lineMarker)).print { sink, level } =
          (.ok (), { sink := sink.add printed none, level })) ∧
      (Text.OnlyComments printed ↔
        ∀ line ∈ lines element side comments, Text.Contained line)) ∧
    ((∀ line ∈ lines element side comments, ∀ c ∈ line, Text.isLineTerminator c = false) →
      ∀ line ∈ lines element side comments, Text.Contained line) := by
  refine ⟨onlyComments_block element side comments, ?_, ?_⟩
  · intro level
    refine ⟨_, ?_, onlyComments_printed element side comments level⟩
    intro sink unlimited
    rw [Document.print_unlimited _ { sink, level } unlimited, Item.endsLine_commentLayout]
    rfl
  · intro oneLine line member
    exact Text.contained_of_oneLine (oneLine line member)

/-- A comment with a carriage return inside its only line. -/
def returning : SourceComments :=
  { leading := some " Says hello.\rprocess.exit(1);\n" }

/-- A script runs what stands behind the carriage return. -/
theorem returning_leaves_comment :
    lines .method .leading (some returning) =
        ([" Says hello.\rprocess.exit(1);"] : List Text) ∧
      block .method .leading (some returning) lineMarker =
        ("// Says hello.\rprocess.exit(1);\n" : Text) ∧
      Text.scriptLines (block .method .leading (some returning) lineMarker) =
        (["// Says hello.", "process.exit(1);", ""] : List Text) ∧
      ¬ Text.OnlyComments (block .method .leading (some returning) lineMarker) := by
  decide

end Comment
end GrpcBindings

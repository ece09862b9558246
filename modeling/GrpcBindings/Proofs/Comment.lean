import GrpcBindings.Comment
import GrpcBindings.Proofs.Printing
import GrpcBindings.Proofs.Text.Lines

/-!
Comment blocks, line by line. Every line of a comment is a line of its block, behind a marker, and
the printer finds the lines again that the block was made of.
-/

namespace GrpcBindings
namespace Text

/-- Whether a line is a comment, indented or not. -/
def isCommentLine (line : Text) : Bool :=
  Comment.lineMarker.isPrefixOf (line.dropWhile (· = ' '))

theorem isCommentLine_append {indentation line : Text} (blank : ∀ c ∈ indentation, c = ' ') :
    isCommentLine (indentation ++ line) = isCommentLine line := by
  rw [isCommentLine, isCommentLine, List.dropWhile_append_of_pos (by simpa using blank)]

theorem isCommentLine_marked (line : Text) :
    isCommentLine (Comment.lineMarker ++ line) = true := rfl

end Text
namespace Comment

/-- What stands between a marker and a line. -/
def gap : Text → Text
  | [] | ' ' :: _ => []
  | _ => " "

theorem markLine_eq (marker line : Text) : markLine marker line = marker ++ gap line ++ line := by
  unfold markLine gap
  split <;> simp

theorem gap_eq (line : Text) : gap line = [] ∨ gap line = " " := by
  unfold gap
  split
  · exact .inl rfl
  · exact .inl rfl
  · exact .inr rfl

theorem mem_lead (line : Text) : ∀ c ∈ lineMarker ++ gap line, c = '/' ∨ c = ' ' := by
  have slashes : lineMarker = List.replicate 2 '/' := rfl
  rw [List.forall_mem_append, slashes]
  refine ⟨fun c member => .inl (List.eq_of_mem_replicate member), ?_⟩
  intro c member
  rcases gap_eq line with none | space
  · rw [none] at member
    cases member
  · rw [space] at member
    exact .inr (List.mem_singleton.mp member)

theorem dropReturn_markLine (line : Text) :
    Text.dropReturn (markLine lineMarker line) =
      lineMarker ++ gap line ++ Text.dropReturn line := by
  cases line with
  | nil => rfl
  | cons c rest => rw [markLine_eq, Text.dropReturn_append _ (List.cons_ne_nil c rest)]

theorem newline_not_mem_lines (element : Element) (side : CommentSide)
    (comments : Option SourceComments) : ∀ line ∈ lines element side comments, '\n' ∉ line := by
  cases comments with
  | none => exact List.forall_mem_nil _
  | some comments =>
      cases side with
      | leading =>
          rw [lines, leadingLines, List.forall_mem_append]
          refine ⟨?_, Text.newline_not_mem_lines _⟩
          simp only [List.forall_mem_flatMap, List.forall_mem_append, List.forall_mem_singleton]
          exact fun block _ => ⟨Text.newline_not_mem_lines block, List.not_mem_nil⟩
      | trailing =>
          cases element with
          | file => exact List.forall_mem_nil _
          | service | method => exact Text.newline_not_mem_lines _

/-- The lines of a block are those that it was made of, each behind a marker. -/
theorem lines_format {texts : List Text} (oneLine : ∀ line ∈ texts, '\n' ∉ line) :
    (format texts lineMarker).lines =
      texts.map fun line => lineMarker ++ gap line ++ Text.dropReturn line := by
  induction texts with
  | nil => rfl
  | cons line rest ih =>
      rw [List.forall_mem_cons] at oneLine
      have marked : '\n' ∉ markLine lineMarker line := by
        rw [markLine_eq, List.mem_append, not_or]
        exact ⟨fun member => absurd (mem_lead line _ member) (by decide), oneLine.1⟩
      rw [List.map_cons, ← ih oneLine.2, ← dropReturn_markLine,
        ← Text.lines_append_newline marked, format, List.flatMap_cons, List.append_assoc]
      rfl

end Comment

/-- The printed lines of a block are those that it was made of, indented and behind markers. -/
theorem source_commentLayout (element : Element) (side : CommentSide)
    (comments : Option SourceComments) (level : Nat) :
    (commentLayout (Comment.block element side comments Comment.lineMarker)).source level true =
      (Comment.lines element side comments).flatMap fun line =>
        Printer.margin level ++ (Comment.lineMarker ++ Comment.gap line ++ Text.dropReturn line) ++
          ("\n" : Text) := by
  have each : ∀ document ∈ (Comment.block element side comments Comment.lineMarker).lines.map
      Document.line, document.endsLine true = true := by
    rw [List.forall_mem_map]
    exact fun _ _ => rfl
  rw [commentLayout, Document.source_concat _ level each, List.flatMap_map, Comment.block,
    Comment.lines_format (Comment.newline_not_mem_lines element side comments), List.flatMap_map]
  have filled (line : Text) : Comment.lineMarker ++ Comment.gap line ++ Text.dropReturn line ≠ [] :=
    List.cons_ne_nil _ _
  simp only [Document.source_line (filled _)]

/-- The line that shows a line of a comment at a level. -/
def Comment.shownLine (level : Nat) (line : Text) : Text :=
  List.replicate (2 * level) ' ' ++ "//" ++ gap line ++ Text.dropReturn line

theorem Comment.shownLine_eq (level : Nat) (line : Text) :
    shownLine level line =
      Printer.margin level ++ (lineMarker ++ gap line ++ Text.dropReturn line) := by
  rw [Printer.margin_eq, shownLine, List.append_assoc, List.append_assoc, List.append_assoc]
  rfl

theorem Comment.newline_not_mem_shownLine (level : Nat) {line : Text} (oneLine : '\n' ∉ line) :
    '\n' ∉ shownLine level line := by
  rw [shownLine_eq, List.mem_append, List.mem_append]
  rintro (indentation | lead | kept)
  · exact absurd (Printer.eq_space_of_mem_margin indentation) (by decide)
  · exact absurd (mem_lead line _ lead) (by decide)
  · exact oneLine (Text.mem_of_mem_dropReturn kept)

/-- The comment before an element is printed with one line for each of its lines. These are, for
every detached block, its lines and an empty one, and then the lines of the leading block. Though
they are put together to a block and cut apart again, the lines of the printed text are those that
show them, in their order. -/
theorem leadingComment_line_by_line (element : Element) (comments : SourceComments) (level : Nat)
    (sink : Sink) (unlimited : sink.room = none) :
    ∃ (shown : List Text) (printed : Text),
      shown = ((comments.detached.flatMap fun (block : Text) => block.lines ++ [[]]) ++
        (comments.leading.getD []).lines).map (Comment.shownLine level) ∧
      (commentLayout (Comment.block element .leading (some comments) Comment.lineMarker)).print
          { sink, level } =
        (.ok (), { sink := sink.add printed none, level }) ∧
      printed = shown.flatMap (· ++ ("\n" : Text)) ∧
      List.splitOn '\n' printed = shown ++ [[]] := by
  have oneLine : ∀ line ∈ (Comment.leadingLines comments).map (Comment.shownLine level),
      '\n' ∉ line := by
    rw [List.forall_mem_map]
    intro line member
    exact Comment.newline_not_mem_shownLine level
      (Comment.newline_not_mem_lines element .leading (some comments) line member)
  refine ⟨_, _, rfl, ?_, rfl, Text.splitOn_flatMap_newline oneLine⟩
  rw [Document.print_unlimited _ { sink, level } unlimited, Item.endsLine_commentLayout,
    source_commentLayout, List.flatMap_map]
  simp only [Comment.shownLine_eq]
  rfl

/-- A detached block with an empty line and without a final line feed, and a leading one with
carriage returns. -/
def patchy : SourceComments :=
  { detached := ["One.\r\n\nTwo."], leading := some " Three.\r\r\n\r" }

theorem leadingComment_line_by_line_patchy :
    ∃ printed : Text,
      (commentLayout (Comment.block .service .leading (some patchy) Comment.lineMarker)).print
          { sink := {}, level := 1 } =
        (.ok (), { sink := Sink.add {} printed none, level := 1 }) ∧
      List.splitOn '\n' printed =
        (["  // One.", "  //", "  // Two.", "  //", "  // Three.", "  // ", []] : List Text) := by
  obtain ⟨shown, printed, lines, prints, _, cut⟩ :=
    leadingComment_line_by_line .service patchy 1 {} rfl
  refine ⟨printed, prints, cut.trans ?_⟩
  rw [lines]
  decide

end GrpcBindings

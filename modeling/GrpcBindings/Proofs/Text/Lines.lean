import GrpcBindings.Text.Lines

/-!
Lines against the text that they are cut from. No line has a line feed in it. A text without one
that is followed by a line feed is a line, without the carriage return that it may end in.
-/

namespace GrpcBindings
namespace Text

/-- Text without separators belongs to the first piece. -/
theorem splitOnP_append {separates : Char → Bool} {t : Text}
    (onePiece : ∀ c ∈ t, separates c = false) (rest : Text) :
    List.splitOnP separates (t ++ rest) =
      (List.splitOnP separates rest).modifyHead (t ++ ·) := by
  induction t with
  | nil => exact (congrFun List.modifyHead_id _).symm
  | cons c others ih =>
      rw [List.forall_mem_cons] at onePiece
      rw [List.cons_append, List.splitOnP_cons_eq_if_modifyHead, onePiece.1, ih onePiece.2,
        if_neg Bool.false_ne_true, List.modifyHead_modifyHead]
      rfl

/-- A text without one carriage return at its end. -/
def dropReturn (t : Text) : Text :=
  if t.getLast? = some '\r' then t.dropLast else t

theorem dropReturn_append (t : Text) {rest : Text} (more : rest ≠ []) :
    dropReturn (t ++ rest) = t ++ dropReturn rest := by
  obtain ⟨init, c, rfl⟩ := List.eq_nil_or_concat rest |>.resolve_left more
  rw [List.concat_eq_append, ← List.append_assoc, dropReturn, dropReturn, List.getLast?_concat,
    List.getLast?_concat]
  split
  · rw [List.dropLast_concat, List.dropLast_concat]
  · rw [List.append_assoc]

theorem mem_of_mem_dropReturn {c : Char} {t : Text} (member : c ∈ dropReturn t) : c ∈ t := by
  unfold dropReturn at member
  split at member
  · exact List.dropLast_subset t member
  · exact member

/-- Lines that end in line feeds, one after another, are cut apart as they were, with nothing behind
the last one. -/
theorem splitOn_flatMap_newline {lines : List Text} (oneLine : ∀ line ∈ lines, '\n' ∉ line) :
    List.splitOn '\n' (lines.flatMap fun line => line ++ ("\n" : Text)) = lines ++ [[]] := by
  induction lines with
  | nil => rfl
  | cons line rest ih =>
      rw [List.forall_mem_cons] at oneLine
      have next := List.splitOn_append_cons_self (a := '\n') line
        (rest.flatMap fun line => line ++ ("\n" : Text))
      rw [List.splitOn_eq_singleton oneLine.1, ih oneLine.2] at next
      rw [List.flatMap_cons, List.append_assoc]
      exact next

/-- A character that is not part of a line's end belongs to the first line. -/
theorem lines_cons {c : Char} {t line : Text} {more : List Text} (notNewline : c ≠ '\n')
    (notReturn : c = '\r' → t.head? ≠ some '\n') (found : t.lines = line :: more) :
    lines (c :: t) = (c :: line) :: more := by
  rw [lines, found]
  · exact notNewline
  · rintro rest rfl rfl
    exact notReturn rfl rfl

theorem newline_not_mem_lines (t : Text) : ∀ line ∈ t.lines, '\n' ∉ line := by
  fun_induction lines t with
  | case1 => exact List.forall_mem_nil _
  | case2 rest ih => exact List.forall_mem_cons.mpr ⟨List.not_mem_nil, ih⟩
  | case3 rest ih => exact List.forall_mem_cons.mpr ⟨List.not_mem_nil, ih⟩
  | case4 c rest notNewline notReturn none ih =>
      intro line member
      rw [List.mem_singleton.mp member, List.mem_singleton]
      exact fun same => notNewline same.symm
  | case5 c rest notNewline notReturn first more found ih =>
      rw [found, List.forall_mem_cons] at ih
      refine List.forall_mem_cons.mpr ⟨?_, ih.2⟩
      rw [List.mem_cons, not_or]
      exact ⟨fun same => notNewline same.symm, ih.1⟩

theorem lines_append_newline {line : Text} (oneLine : '\n' ∉ line) (rest : Text) :
    lines (line ++ '\n' :: rest) = dropReturn line :: rest.lines := by
  induction line with
  | nil => rfl
  | cons c others ih =>
      rw [List.mem_cons, not_or] at oneLine
      have notNewline : c ≠ '\n' := fun same => oneLine.1 same.symm
      cases others with
      | nil =>
          by_cases ends : c = '\r'
          · rw [ends]
            rfl
          · have kept : dropReturn [c] = [c] := if_neg (by simpa using ends)
            rw [kept]
            exact lines_cons notNewline (absurd · ends) (ih oneLine.2)
      | cons d more =>
          have kept : dropReturn (c :: d :: more) = c :: dropReturn (d :: more) :=
            dropReturn_append [c] (List.cons_ne_nil d more)
          rw [kept]
          refine lines_cons notNewline ?_ (ih oneLine.2)
          intro _ next
          have newline : d = '\n' := Option.some.inj next
          exact oneLine.2 (newline ▸ List.mem_cons_self)

end Text
end GrpcBindings

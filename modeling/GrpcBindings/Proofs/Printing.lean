import GrpcBindings.Declaration.Layout

/-!
The text of documents and items. On a sink without a limit, printing a document adds its text, which
depends on the level and on whether a line begins, and leaves the level as it was. An item that
begins on a new line at the outermost level ends like that too, so items can be read one by one.
-/

namespace GrpcBindings
namespace Sink

theorem add_nil (sink : Sink) (unlimited : sink.room = none) : sink.add [] none = sink := by
  cases sink
  cases unlimited
  rfl

theorem add_add (sink : Sink) (first second : Text) (r s : Option Nat) :
    (sink.add first r).add second s = sink.add (first ++ second) s := by
  simp [add]

theorem put_unlimited (sink : Sink) (t : Text) (unlimited : sink.room = none) :
    sink.put t = (sink.add t none, true) := by
  simp only [put, unlimited]

theorem put_nil (sink : Sink) : sink.put [] = (sink, true) := by
  cases sink with
  | mk backwards room => cases room <;> rfl

/-- It makes no difference to a sink where a text is cut into pieces. -/
theorem put_append (sink : Sink) (t u : Text) :
    sink.put (t ++ u) =
      match sink.put t with
      | (sink, true) => sink.put u
      | (sink, false) => (sink, false) := by
  cases sink with
  | mk backwards room =>
      cases room with
      | none => simp [put, add]
      | some room =>
          by_cases first : t.length ≤ room
          · by_cases second : u.length ≤ room - t.length
            · have both : (t ++ u).length ≤ room := by
                rw [List.length_append]
                omega
              simp only [put, if_pos first, if_pos both]
              simp only [add, if_pos second, List.length_append, Nat.sub_sub, List.reverseAux_eq,
                List.reverse_append, List.append_assoc]
            · have both : ¬ (t ++ u).length ≤ room := by
                rw [List.length_append]
                omega
              simp only [put, if_pos first, if_neg both]
              simp only [add, if_neg second, List.take_append, List.take_of_length_le first,
                List.reverseAux_eq, List.reverse_append, List.append_assoc]
          · have both : ¬ (t ++ u).length ≤ room := by
              rw [List.length_append]
              omega
            simp only [put, if_neg first, if_neg both,
              List.take_append_of_le_length (Nat.le_of_not_le first)]

end Sink

namespace Printer

/-- Whatever the state is, the first of two actions ends both if it fails. -/
theorem bind_run {σ α β : Type} (action : ExceptT Error (StateM σ) α)
    (next : α → ExceptT Error (StateM σ) β) (state : σ) :
    (action >>= next) state =
      match action state with
      | (.ok a, after) => next a after
      | (.error e, after) => (.error e, after) := by
  simp only [bind, ExceptT.bind, ExceptT.mk, StateT.bind]
  rcases action state with ⟨_ | _, _⟩ <;> rfl

theorem forM_putRaw (units : List Text) : units.forM putRaw = putRaw units.flatten := by
  induction units with
  | nil =>
      funext printer
      simp only [putRaw, List.flatten_nil, Sink.put_nil]
      rfl
  | cons unit units ih =>
      rw [List.forM_eq_forM] at ih ⊢
      funext printer
      rw [List.forM_cons, bind_run, ih]
      simp only [putRaw, List.flatten_cons, Sink.put_append]
      rcases printer.sink.put unit with ⟨sink, _ | _⟩ <;> rfl

/-- The indentation of a line at a level. -/
def margin (level : Nat) : Text :=
  (List.replicate level indentation).flatten

/-- Indentation could as well be put at once. -/
theorem indent_eq (level : Nat) : indent level = putRaw (margin level) :=
  forM_putRaw (List.replicate level indentation)

theorem margin_eq (level : Nat) : margin level = List.replicate (2 * level) ' ' := by
  have spaces : indentation = List.replicate 2 ' ' := rfl
  rw [margin, spaces, List.flatten_replicate_replicate, Nat.mul_comm]

theorem eq_space_of_mem_margin {level : Nat} {c : Char} (member : c ∈ margin level) : c = ' ' := by
  rw [margin_eq] at member
  exact List.eq_of_mem_replicate member

/-- The printer after a text, on a sink without a limit. -/
def after (printer : Printer) (t : Text) (atLineStart : Bool) : Printer :=
  { printer with sink := printer.sink.add t none, atLineStart }

theorem putRaw_unlimited (printer : Printer) (t : Text) (unlimited : printer.sink.room = none) :
    putRaw t printer = (.ok (), printer.after t printer.atLineStart) := by
  simp only [putRaw, Sink.put_unlimited printer.sink t unlimited]
  rfl

theorem startLine_unlimited (printer : Printer) (unlimited : printer.sink.room = none) :
    startLine printer =
      (.ok (), printer.after (if printer.atLineStart then margin printer.level else []) false) := by
  unfold startLine
  cases start : printer.atLineStart with
  | true =>
      rw [if_pos rfl, if_pos rfl, bind_run, indent_eq, putRaw_unlimited printer _ unlimited]
      rfl
  | false =>
      rw [if_neg Bool.false_ne_true, if_neg Bool.false_ne_true, after,
        Sink.add_nil printer.sink unlimited, ← start]

end Printer

namespace Document

/-- Whether a line begins behind a document, if one begins before it or not. -/
def endsLine : Document → Bool → Bool
  | text t, startsLine => startsLine && t.isEmpty
  | lineBreak, _ => true
  | indented body, startsLine => body.endsLine startsLine
  | append first second, startsLine => second.endsLine (first.endsLine startsLine)

/-- The text of a document at a level, where a line begins before it or not. -/
def source : Document → Nat → Bool → Text
  | text [], _, _ => []
  | text (c :: rest), level, startsLine =>
      (if startsLine then Printer.margin level else []) ++ c :: rest
  | lineBreak, _, _ => ['\n']
  | indented body, level, startsLine => body.source (level + 1) startsLine
  | append first second, level, startsLine =>
      first.source level startsLine ++ second.source level (first.endsLine startsLine)

theorem print_unlimited (document : Document) (printer : Printer)
    (unlimited : printer.sink.room = none) :
    document.print printer =
      (.ok (), printer.after (document.source printer.level printer.atLineStart)
        (document.endsLine printer.atLineStart)) := by
  induction document generalizing printer with
  | text t =>
      cases t with
      | nil =>
          simp only [print, Printer.putText, source, endsLine, Printer.after,
            Sink.add_nil printer.sink unlimited, List.isEmpty_nil, Bool.and_true]
          rfl
      | cons c rest =>
          simp only [print, Printer.putText, Printer.bind_run,
            Printer.startLine_unlimited printer unlimited]
          rw [Printer.putRaw_unlimited _ _ rfl]
          simp only [Printer.after, Sink.add_add, source, endsLine, List.isEmpty_cons,
            Bool.and_false]
  | lineBreak =>
      simp only [print, Printer.breakLine, Printer.bind_run,
        Printer.putRaw_unlimited printer ['\n'] unlimited]
      rfl
  | indented body ih =>
      simp only [print, Printer.deeper]
      rw [ih { printer with level := printer.level + 1 } unlimited]
      rfl
  | append first second ihf ihs =>
      simp only [print, Printer.bind_run, ihf printer unlimited]
      rw [ihs _ rfl]
      simp only [Printer.after, Sink.add_add, source, endsLine]

theorem endsLine_append (first second : Document) (startsLine : Bool) :
    (first ++ second).endsLine startsLine = second.endsLine (first.endsLine startsLine) := rfl

theorem endsLine_concat (documents : List Document)
    (each : ∀ document ∈ documents, document.endsLine true = true) :
    (concat documents).endsLine true = true := by
  induction documents with
  | nil => rfl
  | cons first rest ih =>
      rw [concat, endsLine_append, each first List.mem_cons_self]
      exact ih fun document member => each document (List.mem_cons_of_mem first member)

theorem source_append (first second : Document) (level : Nat) (startsLine : Bool) :
    (first ++ second).source level startsLine =
      first.source level startsLine ++ second.source level (first.endsLine startsLine) := rfl

/-- Documents that end their lines have their texts one after another. -/
theorem source_concat (documents : List Document) (level : Nat)
    (each : ∀ document ∈ documents, document.endsLine true = true) :
    (concat documents).source level true =
      documents.flatMap fun document => document.source level true := by
  induction documents with
  | nil => rfl
  | cons first rest ih =>
      rw [concat, source_append, each first List.mem_cons_self, List.flatMap_cons,
        ih fun document member => each document (List.mem_cons_of_mem first member)]

theorem source_line {t : Text} (filled : t ≠ []) (level : Nat) :
    (line t).source level true = Printer.margin level ++ t ++ "\n" := by
  cases t with
  | nil => exact absurd rfl filled
  | cons c rest => rfl

end Document

/-- What an action does to a printer with nothing begun on a sink without a limit: it ends with a
result, adds a text, and has nothing begun again. -/
def Prints {α : Type} (action : Printing α) (result : Except Error α) (t : Text) : Prop :=
  ∀ sink : Sink, sink.room = none →
    action (.ofSink sink) = (result, .ofSink (sink.add t none))

namespace Prints

variable {α β : Type}

theorem pure (a : α) : Prints (Pure.pure a) (.ok a) [] := by
  intro sink unlimited
  rw [Sink.add_nil sink unlimited]
  rfl

theorem bind {action : Printing α} {next : α → Printing β} {a : α} {result : Except Error β}
    {t u : Text} (first : Prints action (.ok a) t) (second : Prints (next a) result u) :
    Prints (action >>= next) result (t ++ u) := by
  intro sink unlimited
  rw [Printer.bind_run, first sink unlimited]
  simp only [second (sink.add t none) rfl, Sink.add_add]

theorem bind_error {action : Printing α} {error : Error} {t : Text} (next : α → Printing β)
    (first : Prints action (.error error) t) : Prints (action >>= next) (.error error) t := by
  intro sink unlimited
  rw [Printer.bind_run, first sink unlimited]

/-- What is computed before anything is printed adds no text. -/
theorem lift_bind {computed : Except Error α} {next : α → Printing β} {a : α}
    {result : Except Error β} {t : Text} (found : computed = .ok a)
    (second : Prints (next a) result t) : Prints (liftM computed >>= next) result t := by
  intro sink unlimited
  rw [found, Printer.bind_run]
  exact second sink unlimited

theorem lift_bind_error {computed : Except Error α} {error : Error} (next : α → Printing β)
    (failed : computed = .error error) : Prints (liftM computed >>= next) (.error error) [] := by
  intro sink unlimited
  rw [failed, Printer.bind_run, Sink.add_nil sink unlimited]
  rfl

theorem forM {action : α → Printing Unit} {t : α → Text} (xs : List α)
    (each : ∀ x ∈ xs, Prints (action x) (.ok ()) (t x)) :
    Prints (xs.forM action) (.ok ()) (xs.flatMap t) := by
  induction xs with
  | nil => exact pure ()
  | cons x xs ih =>
      rw [List.forM_eq_forM, List.forM_cons, List.flatMap_cons]
      apply bind (each x List.mem_cons_self)
      rw [← List.forM_eq_forM]
      exact ih fun y member => each y (List.mem_cons_of_mem x member)

end Prints

/-- On whatever sink, an action fails only for reasons of a kind. -/
def FailsOnlyBy {α : Type} (possible : Error → Prop) (action : Printing α) : Prop :=
  ∀ printer error, (action printer).1 = .error error → possible error

namespace FailsOnlyBy

variable {α β : Type} {possible : Error → Prop}

theorem pure (a : α) : FailsOnlyBy possible (Pure.pure a) := by
  intro printer error failed
  cases failed

theorem lift {result : Except Error α} (each : ∀ error, result = .error error → possible error) :
    FailsOnlyBy possible (liftM result) := by
  intro printer error failed
  apply each
  cases result with
  | ok _ => cases failed
  | error _ => exact failed

/-- What succeeds before anything is printed does not fail at all. -/
theorem lift_ok {result : Except Error α} (found : ∃ a, result = .ok a) :
    FailsOnlyBy possible (liftM result) := by
  apply lift
  intro error failed
  obtain ⟨a, succeeded⟩ := found
  rw [succeeded] at failed
  cases failed

theorem bind {action : Printing α} {next : α → Printing β} (first : FailsOnlyBy possible action)
    (second : ∀ a, FailsOnlyBy possible (next a)) : FailsOnlyBy possible (action >>= next) := by
  intro printer error failed
  rw [Printer.bind_run] at failed
  cases run : action printer with
  | mk result after =>
      rw [run] at failed
      cases result with
      | ok a => exact second a after error failed
      | error _ =>
          cases failed
          exact first printer error (by rw [run])

theorem forM {action : α → Printing Unit} (xs : List α)
    (each : ∀ x ∈ xs, FailsOnlyBy possible (action x)) :
    FailsOnlyBy possible (xs.forM action) := by
  induction xs with
  | nil => exact pure ()
  | cons x xs ih =>
      rw [List.forM_eq_forM, List.forM_cons]
      apply bind (each x List.mem_cons_self)
      intro _
      rw [← List.forM_eq_forM]
      exact ih fun y member => each y (List.mem_cons_of_mem x member)

theorem putRaw (format : possible .format) (t : Text) :
    FailsOnlyBy possible (Printer.putRaw t) := by
  intro printer error failed
  simp only [Printer.putRaw] at failed
  split at failed
  · cases failed
  · cases failed
    exact format

theorem setLineStart (atLineStart : Bool) :
    FailsOnlyBy possible (Printer.setLineStart atLineStart) := by
  intro printer error failed
  cases failed

theorem startLine (format : possible .format) : FailsOnlyBy possible Printer.startLine := by
  intro printer error failed
  unfold Printer.startLine at failed
  split at failed
  · refine bind ?_ (fun _ => setLineStart false) printer error failed
    exact forM _ fun unit _ => putRaw format unit
  · cases failed

/-- Printing a document fails only where the sink is full. -/
theorem document (format : possible .format) (document : Document) :
    FailsOnlyBy possible document.print := by
  induction document with
  | text t =>
      cases t with
      | nil => exact pure ()
      | cons c rest => exact bind (startLine format) fun _ => putRaw format (c :: rest)
  | lineBreak => exact bind (putRaw format ['\n']) fun _ => setLineStart true
  | indented body ih =>
      intro printer error failed
      exact ih { printer with level := printer.level + 1 } error failed
  | append first second ihf ihs => exact bind ihf fun _ => ihs

theorem printAll (format : possible .format) (items : List Item) :
    FailsOnlyBy possible (Item.printAll items) :=
  forM items fun item _ => document format item.layout

end FailsOnlyBy

namespace Item

theorem endsLine_commentLayout (block : Text) : (commentLayout block).endsLine true = true := by
  apply Document.endsLine_concat
  intro document member
  obtain ⟨_, _, rfl⟩ := List.mem_map.mp member
  rfl

theorem endsLine_layout (item : Item) : item.layout.endsLine true = true := by
  cases item with
  | comment block => exact endsLine_commentLayout block
  | namespaceImport _ _ | function _ _ _ _ | interface _ _ _ | constant _ _ _ | blank => rfl

/-- The text of an item on lines of its own. -/
def source (item : Item) : Text :=
  item.layout.source 0 true

theorem prints_print (item : Item) : Prints item.print (.ok ()) item.source := by
  intro sink unlimited
  rw [print, Document.print_unlimited item.layout (.ofSink sink) unlimited]
  simp only [Printer.ofSink, Printer.after, endsLine_layout]
  rfl

private theorem prints_printAll_source (items : List Item) :
    Prints (printAll items) (.ok ()) (items.flatMap source) :=
  Prints.forM items fun item _ => prints_print item

/-- What items are printed as on their own, by a new printer on an empty sink. -/
def rendering (items : List Item) : Text :=
  (printAll items (.ofSink {})).2.sink.written

theorem rendering_eq (items : List Item) : rendering items = items.flatMap source := by
  rw [rendering, prints_printAll_source items {} rfl]
  exact Sink.written_add {} _ none

theorem prints_printAll (items : List Item) :
    Prints (printAll items) (.ok ()) (rendering items) := by
  rw [rendering_eq]
  exact prints_printAll_source items

end Item
end GrpcBindings

import GrpcBindings.Proofs.SinkLimit

/-!
Printing to anything that takes text. It may refuse a text at any time, for good or for a while, and
what it makes of a text is its own affair. Printing comes back to the level at which it began in
every case, and where it succeeds, a line begins behind a document exactly if the document says so.
So an item leaves nothing behind but its text, and items can be printed one by one.
-/

namespace GrpcBindings

/-- Something that takes texts and characters. It answers with what has become of it and with
whether it took what it was given. -/
structure Outlet (σ : Type) where
  putText : σ → Text → σ × Bool
  putChar : σ → Char → σ × Bool

/-- Where printing to an outlet stands. -/
structure Writer (σ : Type) where
  sink : σ
  level : Nat := 0
  atLineStart : Bool := true

abbrev Writing (σ : Type) := ExceptT Error (StateM (Writer σ))

namespace Outlet

variable {σ : Type}

/-- Gives something to the sink. -/
def give (put : σ → σ × Bool) : Writing σ Unit := fun writer =>
  match put writer.sink with
  | (sink, true) => (.ok (), { writer with sink })
  | (sink, false) => (.error .format, { writer with sink })

def setLineStart (atLineStart : Bool) : Writing σ Unit :=
  modify fun writer => { writer with atLineStart }

def deeper (body : Writing σ Unit) : Writing σ Unit := fun writer =>
  let (result, after) := body { writer with level := writer.level + 1 }
  (result, { after with level := after.level - 1 })

variable (outlet : Outlet σ)

/-- The sink is given the indentation level by level. -/
def indent (level : Nat) : Writing σ Unit :=
  (List.replicate level Printer.indentation).forM fun unit => give (outlet.putText · unit)

/-- Indents the line if it begins here. It has begun when the sink has taken all of that. -/
def startLine : Writing σ Unit := fun writer =>
  if writer.atLineStart then (outlet.indent writer.level >>= fun _ => setLineStart false) writer
  else (.ok (), writer)

def writeText : Text → Writing σ Unit
  | [] => pure ()
  | t => do
      outlet.startLine
      give (outlet.putText · t)

def breakLine : Writing σ Unit := do
  give (outlet.putChar · '\n')
  setLineStart true

def print : Document → Writing σ Unit
  | .text t => outlet.writeText t
  | .lineBreak => outlet.breakLine
  | .indented body => deeper (print body)
  | .append first second => do
      print first
      print second

def printItem (item : Item) : Writing σ Unit :=
  outlet.print item.layout

def printItems (items : List Item) : Writing σ Unit :=
  items.forM outlet.printItem

theorem printItems_eq (items : List Item) :
    outlet.printItems items = outlet.print (Document.concat (items.map Item.layout)) := by
  rw [printItems, List.forM_eq_forM]
  induction items with
  | nil => rfl
  | cons item rest ih =>
      rw [List.forM_cons, ih]
      rfl

end Outlet

/-- What a run does to where printing stands, whatever the sink is: the level is as before, and
after a success a line begins or not as a function says of how it was before. -/
structure Restores {σ : Type} (action : Writing σ Unit) (line : Bool → Bool) : Prop where
  level : ∀ writer, (action writer).2.level = writer.level
  atLineStart : ∀ writer after, action writer = (.ok (), after) →
    after.atLineStart = line writer.atLineStart

namespace Restores

variable {σ : Type} {action next : Writing σ Unit} {line behind : Bool → Bool}

theorem pure : Restores (Pure.pure () : Writing σ Unit) id := by
  constructor
  · intro writer
    rfl
  · rintro writer _ ⟨⟩
    rfl

theorem bind (first : Restores action line) (second : Restores next behind) :
    Restores (action >>= fun _ => next) (behind ∘ line) := by
  constructor
  · intro writer
    rw [Printer.bind_run, ← first.level writer]
    cases action writer with
    | mk result between =>
        cases result with
        | ok _ => exact second.level between
        | error _ => rfl
  · intro writer after run
    rw [Printer.bind_run] at run
    cases found : action writer with
    | mk result between =>
        rw [found] at run
        cases result with
        | ok _ =>
            rw [second.atLineStart between after run, first.atLineStart writer between found,
              Function.comp_apply]
        | error _ => cases run

theorem give (put : σ → σ × Bool) : Restores (Outlet.give put) id := by
  constructor
  · intro writer
    rw [Outlet.give]
    split <;> rfl
  · intro writer after run
    rw [Outlet.give] at run
    split at run <;> cases run
    rfl

theorem setLineStart (atLineStart : Bool) :
    Restores (Outlet.setLineStart atLineStart : Writing σ Unit) fun _ => atLineStart := by
  constructor
  · intro writer
    rfl
  · rintro writer _ ⟨⟩
    rfl

theorem deeper (inner : Restores action line) : Restores (Outlet.deeper action) line := by
  constructor
  · intro writer
    have back := inner.level { writer with level := writer.level + 1 }
    exact congrArg (· - 1) back
  · intro writer after run
    rw [Outlet.deeper] at run
    cases found : action { writer with level := writer.level + 1 } with
    | mk result inside =>
        rw [found] at run
        cases run
        exact inner.atLineStart { writer with level := writer.level + 1 } inside found

variable (outlet : Outlet σ)

theorem indent (level : Nat) : Restores (outlet.indent level) id := by
  rw [Outlet.indent, List.forM_eq_forM]
  induction level with
  | zero => exact pure
  | succ level ih =>
      rw [List.replicate_succ, List.forM_cons]
      exact bind (give (outlet.putText · Printer.indentation)) ih

theorem startLine : Restores outlet.startLine fun _ => false := by
  have begins (level : Nat) := bind (indent outlet level) (setLineStart false)
  constructor
  · intro writer
    rw [Outlet.startLine]
    split
    · exact (begins writer.level).level writer
    · rfl
  · intro writer after run
    rw [Outlet.startLine] at run
    split at run
    · exact (begins writer.level).atLineStart writer after run
    · next inside =>
        cases run
        exact Bool.eq_false_iff.mpr inside

/-- A document is printed like that to every sink. -/
theorem document (document : Document) : Restores (outlet.print document) document.endsLine := by
  induction document with
  | text t =>
      cases t with
      | nil =>
          have same : (Document.text []).endsLine = id := funext Bool.and_true
          rw [same]
          exact pure
      | cons c rest =>
          have same : (Document.text (c :: rest)).endsLine = id ∘ fun _ => false :=
            funext Bool.and_false
          rw [same]
          exact bind (startLine outlet) (give (outlet.putText · (c :: rest)))
  | lineBreak => exact bind (give (outlet.putChar · '\n')) (setLineStart true)
  | indented body ih => exact deeper ih
  | append first second ihf ihs => exact bind ihf ihs

end Restores

/-- A printer as it stands, over its sink. -/
def Printer.writer (printer : Printer) : Writer Sink :=
  { sink := printer.sink, level := printer.level, atLineStart := printer.atLineStart }

/-- A sink that may have a limit takes a character as it takes a text. -/
def Sink.outlet : Outlet Sink where
  putText := put
  putChar sink c := sink.put [c]

/-- Writing to an outlet does what printing does: it has the same result, and stands where the
printer stands then. -/
def Mirrors (action : Writing Sink Unit) (printing : Printing Unit) : Prop :=
  ∀ printer : Printer,
    action printer.writer = ((printing printer).1, (printing printer).2.writer)

namespace Mirrors

variable {action next : Writing Sink Unit} {printing following : Printing Unit}

theorem pure : Mirrors (Pure.pure ()) (Pure.pure ()) :=
  fun _ => rfl

theorem bind (first : Mirrors action printing) (second : Mirrors next following) :
    Mirrors (action >>= fun _ => next) (printing >>= fun _ => following) := by
  intro printer
  rw [Printer.bind_run, Printer.bind_run, first printer]
  rcases printing printer with ⟨_ | _, between⟩
  · rfl
  · exact second between

theorem give (t : Text) :
    Mirrors (Outlet.give (Sink.outlet.putText · t)) (Printer.putRaw t) := by
  intro printer
  have taken : Sink.outlet.putText printer.writer.sink t = printer.sink.put t := rfl
  simp only [Outlet.give, Printer.putRaw, taken]
  rcases printer.sink.put t with ⟨sink, _ | _⟩ <;> rfl

theorem setLineStart (atLineStart : Bool) :
    Mirrors (Outlet.setLineStart atLineStart) (Printer.setLineStart atLineStart) :=
  fun _ => rfl

theorem deeper (inner : Mirrors action printing) :
    Mirrors (Outlet.deeper action) (Printer.deeper printing) := by
  intro printer
  exact congrArg (fun run => (run.1, { run.2 with level := run.2.level - 1 }))
    (inner { printer with level := printer.level + 1 })

theorem indent (level : Nat) : Mirrors (Sink.outlet.indent level) (Printer.indent level) := by
  rw [Outlet.indent, Printer.indent, List.forM_eq_forM, List.forM_eq_forM]
  induction level with
  | zero => exact pure
  | succ level ih =>
      rw [List.replicate_succ, List.forM_cons, List.forM_cons]
      exact bind (give Printer.indentation) ih

theorem startLine : Mirrors Sink.outlet.startLine Printer.startLine := by
  intro printer
  have level : printer.writer.level = printer.level := rfl
  have begins : printer.writer.atLineStart = printer.atLineStart := rfl
  rw [Outlet.startLine, Printer.startLine, level, begins]
  split
  · exact bind (indent printer.level) (setLineStart false) printer
  · rfl

theorem document (document : Document) : Mirrors (Sink.outlet.print document) document.print := by
  induction document with
  | text t =>
      cases t with
      | nil => exact pure
      | cons c rest => exact bind startLine (give (c :: rest))
  | lineBreak => exact bind (give ['\n']) (setLineStart true)
  | indented body ih => exact deeper ih
  | append first second ihf ihs => exact bind ihf ihs

theorem printItems (items : List Item) :
    Mirrors (Sink.outlet.printItems items) (Item.printAll items) := by
  rw [Outlet.printItems, Item.printAll, List.forM_eq_forM, List.forM_eq_forM]
  induction items with
  | nil => exact pure
  | cons item rest ih =>
      rw [List.forM_cons, List.forM_cons]
      exact bind (document item.layout) ih

end Mirrors

namespace Item

/-- Whatever it is printed to, an item leaves the level as it was, also where it fails, and if it
succeeds on a new line at the outermost level, that is where it ends. Printers are a case of that.
So the text of items one after another is the text of the first and then of the others. -/
theorem printing_composes :
    (∀ (σ : Type) (outlet : Outlet σ) (writer : Writer σ),
      (∀ item, (outlet.printItem item writer).2.level = writer.level) ∧
      ∀ items, (outlet.printItems items writer).2.level = writer.level) ∧
    (∀ (σ : Type) (outlet : Outlet σ) (sink : σ) (item : Item) (after : Writer σ),
      outlet.printItem item { sink } = (.ok (), after) →
        after.level = 0 ∧ after.atLineStart = true) ∧
    (∀ item, Mirrors (Sink.outlet.printItem item) item.print) ∧
    (∀ items, Mirrors (Sink.outlet.printItems items) (printAll items)) ∧
    ∀ xs ys : List Item, rendering (xs ++ ys) = rendering xs ++ rendering ys := by
  refine ⟨?_, ?_, fun item => .document item.layout, .printItems, ?_⟩
  · intro σ outlet writer
    refine ⟨fun item => (Restores.document outlet item.layout).level writer, fun items => ?_⟩
    rw [outlet.printItems_eq]
    exact (Restores.document outlet _).level writer
  · intro σ outlet sink item after run
    have restored := Restores.document outlet item.layout
    constructor
    · have level := restored.level { sink }
      rw [← Outlet.printItem, run] at level
      exact level
    · rw [restored.atLineStart _ after run]
      exact endsLine_layout item
  · intro xs ys
    rw [rendering_eq, rendering_eq, rendering_eq, List.flatMap_append]

/-- Keeps the texts that it is given, one by one. -/
def ledger : Outlet (List Text) where
  putText texts t := (texts ++ [t], true)
  putChar texts c := (texts ++ [[c]], true)

/-- A cast of a call goes on in the next line, one level deeper. -/
def client : Item :=
  .constant "Client" (some "Factory")
    (.cast "Factory" (.call "make" [.identifier "table", .string "it's"]))

theorem printing_composes_ledger :
    ∃ after, ledger.printItem client { sink := [] } = (.ok (), after) ∧
      after.level = 0 ∧ after.atLineStart = true := by
  have succeeds : (ledger.printItem client { sink := [] }).1 = .ok () := by decide +kernel
  rcases run : ledger.printItem client { sink := [] } with ⟨result, after⟩
  obtain rfl : result = .ok () := by
    rw [← succeeds, run]
  exact ⟨after, rfl, printing_composes.2.1 _ ledger [] client after run⟩

end Item
end GrpcBindings

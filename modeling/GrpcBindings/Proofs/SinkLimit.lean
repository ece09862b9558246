import GrpcBindings.Module
import GrpcBindings.Proofs.ImportBlock
import GrpcBindings.Proofs.Printing

/-!
What a sink with a limit gets of a run. A text may be put at once or in pieces, so whatever a
printer does amounts to one text and then a result. The sink decides no more than whether that text
fits: it gets all of it and the run ends as it would without a limit, or it gets the beginning that
fits and the run ends for that reason.
-/

namespace GrpcBindings
namespace Sink

theorem written_of_put {sink sink' : Sink} {t : Text} (fits : sink.put t = (sink', true)) :
    sink'.written = sink.written ++ t := by
  unfold put at fits
  split at fits
  · cases fits
    exact written_add sink t none
  · split at fits
    · cases fits
      exact written_add sink t _
    · cases fits

theorem put_ofLimit_of_le {limit : Nat} {t : Text} (room : t.length ≤ limit) :
    ∃ sink, (ofLimit (some limit)).put t = (sink, true) ∧ sink.written = t :=
  ⟨_, if_pos room, written_add _ t _⟩

theorem put_ofLimit_of_lt {limit : Nat} {t : Text} (longer : limit < t.length) :
    ∃ sink, (ofLimit (some limit)).put t = (sink, false) ∧ sink.written = t.take limit :=
  ⟨_, if_neg (Nat.not_le.mpr longer), written_add _ (t.take limit) _⟩

end Sink

/-- Where a printer stands, whatever its sink. -/
structure Place where
  level : Nat
  atLineStart : Bool

def Place.on (place : Place) (sink : Sink) : Printer :=
  { sink, level := place.level, atLineStart := place.atLineStart }

/-- What an action does from a place: whatever the sink, it puts one text, and if that fits it has
its result and comes to another place. -/
structure Puts {α : Type} (action : Printing α) (here : Place) (t : Text) (result : Except Error α)
    (there : Place) : Prop where
  fits : ∀ sink sink', sink.put t = (sink', true) →
    action (here.on sink) = (result, there.on sink')
  full : ∀ sink sink', sink.put t = (sink', false) →
    ∃ printer, action (here.on sink) = (.error .format, printer) ∧ printer.sink = sink'

namespace Puts

variable {α β : Type} {here there beyond : Place} {t u : Text}

/-- What puts nothing finds room everywhere. -/
theorem of_nothing {action : Printing α} {result : Except Error α}
    (run : ∀ sink, action (here.on sink) = (result, there.on sink)) :
    Puts action here [] result there := by
  constructor
  · intro sink sink' put
    rw [Sink.put_nil] at put
    cases put
    exact run sink
  · intro sink sink' put
    rw [Sink.put_nil] at put
    cases put

theorem putRaw (t : Text) (here : Place) : Puts (Printer.putRaw t) here t (.ok ()) here := by
  constructor
  · intro sink sink' put
    simp only [Printer.putRaw, Place.on, put]
  · intro sink sink' put
    exact ⟨here.on sink', by simp only [Printer.putRaw, Place.on, put], rfl⟩

theorem bind {action : Printing α} {next : α → Printing β} {a : α} {result : Except Error β}
    (first : Puts action here t (.ok a) there) (second : Puts (next a) there u result beyond) :
    Puts (action >>= next) here (t ++ u) result beyond := by
  constructor
  · intro sink sink' put
    rw [Sink.put_append] at put
    rcases between : sink.put t with ⟨middle, _ | _⟩
    · rw [between] at put
      cases put
    · rw [between] at put
      rw [Printer.bind_run, first.fits sink middle between]
      exact second.fits middle sink' put
  · intro sink sink' put
    rw [Sink.put_append] at put
    -- The sink is full of the first text already, or of the second behind it.
    rcases between : sink.put t with ⟨middle, _ | _⟩
    · rw [between] at put
      cases put
      obtain ⟨printer, run, left⟩ := first.full sink _ between
      exact ⟨printer, by rw [Printer.bind_run, run], left⟩
    · rw [between] at put
      rw [Printer.bind_run, first.fits sink middle between]
      exact second.full middle sink' put

theorem bind_error {action : Printing α} (next : α → Printing β) {error : Error}
    (first : Puts action here t (.error error) there) :
    Puts (action >>= next) here t (.error error) there := by
  constructor
  · intro sink sink' put
    rw [Printer.bind_run, first.fits sink sink' put]
  · intro sink sink' put
    obtain ⟨printer, run, left⟩ := first.full sink sink' put
    exact ⟨printer, by rw [Printer.bind_run, run], left⟩

theorem deeper {body : Printing Unit} {result : Except Error Unit}
    (inner : Puts body { here with level := here.level + 1 } t result there) :
    Puts (Printer.deeper body) here t result { there with level := there.level - 1 } := by
  constructor
  · intro sink sink' put
    have run := inner.fits sink sink' put
    simp only [Place.on] at run
    simp only [Printer.deeper, Place.on, run]
  · intro sink sink' put
    obtain ⟨printer, run, left⟩ := inner.full sink sink' put
    simp only [Place.on] at run
    exact ⟨{ printer with level := printer.level - 1 },
      by simp only [Printer.deeper, Place.on, run], left⟩

end Puts

/-- From every place, an action puts one text and has a result. It never says by itself that a sink
is full. -/
def PutsOneText {α : Type} (action : Printing α) : Prop :=
  ∀ here, ∃ t result there, Puts action here t result there ∧ result ≠ .error .format

namespace PutsOneText

variable {α β : Type}

theorem pure (a : α) : PutsOneText (Pure.pure a) :=
  fun here => ⟨[], .ok a, here, .of_nothing fun _ => rfl, nofun⟩

/-- What is computed without a sink puts nothing. -/
theorem lift {computed : Except Error α} (noSink : computed ≠ .error .format) :
    PutsOneText (liftM computed) := by
  intro here
  refine ⟨[], computed, here, .of_nothing ?_, noSink⟩
  intro sink
  cases computed <;> rfl

theorem putRaw (t : Text) : PutsOneText (Printer.putRaw t) :=
  fun here => ⟨t, .ok (), here, Puts.putRaw t here, nofun⟩

theorem startLine : PutsOneText Printer.startLine := by
  rintro ⟨level, _ | _⟩
  · exact ⟨[], .ok (), ⟨level, false⟩, .of_nothing fun _ => rfl, nofun⟩
  · have margin := Puts.putRaw (Printer.margin level) ⟨level, true⟩
    rw [← Printer.indent_eq] at margin
    have begun : Puts (Printer.setLineStart false) ⟨level, true⟩ [] (.ok ()) ⟨level, false⟩ :=
      .of_nothing fun _ => rfl
    exact ⟨_, .ok (), _, ⟨(margin.bind begun).fits, (margin.bind begun).full⟩, nofun⟩

theorem bind {action : Printing α} {next : α → Printing β} (first : PutsOneText action)
    (second : ∀ a, PutsOneText (next a)) : PutsOneText (action >>= next) := by
  intro here
  obtain ⟨t, result, there, before, noSink⟩ := first here
  cases result with
  | ok a =>
      obtain ⟨u, result, beyond, behind, noSink⟩ := second a there
      exact ⟨t ++ u, result, beyond, before.bind behind, noSink⟩
  | error error =>
      refine ⟨t, .error error, there, before.bind_error next, ?_⟩
      rintro ⟨⟩
      exact noSink rfl

theorem forM {action : α → Printing Unit} (xs : List α) (each : ∀ x, PutsOneText (action x)) :
    PutsOneText (xs.forM action) := by
  induction xs with
  | nil => exact pure ()
  | cons x xs ih =>
      rw [List.forM_eq_forM] at ih ⊢
      rw [List.forM_cons]
      exact bind (each x) fun _ => ih

theorem document (document : Document) : PutsOneText document.print := by
  induction document with
  | text t =>
      cases t with
      | nil => exact pure ()
      | cons c rest => exact bind startLine fun _ => putRaw (c :: rest)
  | lineBreak =>
      refine bind (putRaw ['\n']) fun _ here => ?_
      exact ⟨[], .ok (), { here with atLineStart := true }, .of_nothing fun _ => rfl, nofun⟩
  | indented body ih =>
      intro here
      obtain ⟨t, result, there, inner, noSink⟩ := ih { here with level := here.level + 1 }
      exact ⟨t, result, _, inner.deeper, noSink⟩
  | append first second ihf ihs => exact bind ihf fun _ => ihs

theorem printAll (items : List Item) : PutsOneText (Item.printAll items) :=
  forM items fun item => document item.layout

end PutsOneText

/-- Whatever the sink is, it has got the whole text of the items if printing them succeeds. -/
theorem Item.written_of_printAll {items : List Item} {sink : Sink} {after : Printer}
    (run : printAll items (.ofSink sink) = (.ok (), after)) :
    after.sink.written = sink.written ++ rendering items := by
  obtain ⟨t, result, there, puts, _⟩ := PutsOneText.printAll items ⟨0, true⟩
  have alone : printAll items (.ofSink {}) = (result, there.on (Sink.add {} t none)) :=
    puts.fits {} _ rfl
  have whole : rendering items = t := by
    rw [rendering, alone]
    exact Sink.written_add {} t none
  rcases put : sink.put t with ⟨sink', _ | _⟩
  · obtain ⟨printer, full, _⟩ := puts.full sink sink' put
    have failed : printAll items (.ofSink sink) = (.error .format, printer) := full
    rw [run] at failed
    cases failed
  · have printed : printAll items (.ofSink sink) = (result, there.on sink') :=
      puts.fits sink sink' put
    rw [run] at printed
    cases printed
    rw [whole]
    exact Sink.written_of_put put

section Faults

variable {α β : Type}

theorem bind_ne_format {computed : Except Error α} {next : α → Except Error β}
    (first : computed ≠ .error .format) (second : ∀ a, next a ≠ .error .format) :
    computed >>= next ≠ .error .format := by
  cases computed with
  | ok a => exact second a
  | error error =>
      rintro ⟨⟩
      exact first rfl

theorem mapM_ne_format {f : α → Except Error β} (each : ∀ x, f x ≠ .error .format) (xs : List α) :
    xs.mapM f ≠ .error .format := by
  induction xs with
  | nil => nofun
  | cons x xs ih =>
      rw [List.mapM_cons]
      exact bind_ne_format (each x) fun _ => bind_ne_format ih nofun

theorem SchemaPath.check_ne_format (path : Text) : check path ≠ .error .format := by
  intro full
  obtain ⟨_, ⟨⟩⟩ := invalidPath_of_check full

theorem localName_ne_format (fullName package : Text) :
    localName fullName package ≠ .error .format := by
  unfold localName
  split
  · nofun
  · split <;> nofun

namespace Schema

variable (schema : Schema)

theorem importBlock_ne_format (file : SchemaFile) (options : Options) :
    schema.importBlock file options ≠ .error .format := by
  intro full
  obtain ⟨_, _, ⟨⟩⟩ := invalidPath_of_importBlock full

theorem reference_ne_format (id : MessageId) : schema.reference id ≠ .error .format :=
  bind_ne_format (bind_ne_format (localName_ne_format _ _) nofun) nofun

theorem messageBindings_ne_format (id : MessageId) : schema.messageBindings id ≠ .error .format :=
  bind_ne_format (schema.reference_ne_format id) nofun

theorem serviceContract_ne_format (service : Service) :
    schema.serviceContract service ≠ .error .format := by
  refine bind_ne_format (mapM_ne_format (fun method => ?_) service.methods) nofun
  exact bind_ne_format (schema.reference_ne_format method.input) fun _ =>
    bind_ne_format (schema.reference_ne_format method.output) nofun

end Schema

end Faults

namespace Module

variable (schema : Schema)

theorem printStage_putsOneText (file : SchemaFile) (options : Options) (stage : Stage) :
    PutsOneText (printStage schema file options stage) := by
  cases stage with
  | start | done => exact .pure ()
  | header => exact .printAll (header file)
  | imports =>
      refine .bind (.lift (schema.importBlock_ne_format file options)) fun imports => ?_
      exact .bind (.printAll imports) fun _ => .document Item.blank.layout
  | messageBindings =>
      apply PutsOneText.forM
      intro id
      exact .bind (.lift (schema.messageBindings_ne_format id)) PutsOneText.printAll
  | serviceContracts =>
      apply PutsOneText.forM
      intro service
      exact .bind (.lift (schema.serviceContract_ne_format service)) PutsOneText.printAll

theorem print_putsOneText (id : FileId) (options : Options) :
    PutsOneText (print schema id options) :=
  .bind (.lift (SchemaPath.check_ne_format _)) fun _ =>
    .forM Stage.all fun stage => printStage_putsOneText schema (schema.file id) options stage

end Module

/-- What becomes of an action that begins on a sink with nothing begun. -/
def Printing.runOn (action : Printing Unit) (sink : Sink) : Except Error Unit × Sink :=
  let (result, printer) := action (.ofSink sink)
  (result, printer.sink)

theorem Puts.runOn_of_put {action : Printing Unit} {t : Text} {result : Except Error Unit}
    {there : Place} (puts : Puts action ⟨0, true⟩ t result there) {sink sink' : Sink}
    (put : sink.put t = (sink', true)) : action.runOn sink = (result, sink') := by
  have run : action (.ofSink sink) = (result, there.on sink') := puts.fits sink sink' put
  rw [Printing.runOn, run]
  rfl

theorem Puts.runOn_of_not_put {action : Printing Unit} {t : Text} {result : Except Error Unit}
    {there : Place} (puts : Puts action ⟨0, true⟩ t result there) {sink sink' : Sink}
    (put : sink.put t = (sink', false)) :
    (action.runOn sink).1 = .error .format ∧ (action.runOn sink).2 = sink' := by
  obtain ⟨printer, run, left⟩ := puts.full sink sink' put
  have run : action (.ofSink sink) = (.error .format, printer) := run
  rw [Printing.runOn, run]
  exact ⟨rfl, left⟩

/-- How a run on a sink that takes so many characters compares with the run on one that takes
all. -/
structure CutAt (limit : Nat) (whole cut : Except Error Unit × Sink) : Prop where
  /-- If the text fits, the limit is not seen. -/
  fits : whole.2.written.length ≤ limit → cut.1 = whole.1 ∧ cut.2.written = whole.2.written
  /-- Otherwise the text is cut at the limit. -/
  exceeds : limit < whole.2.written.length →
    cut.1 = .error .format ∧ cut.2.written = whole.2.written.take limit
  /-- Any other fault is one of the whole run, and all text before it fitted. -/
  faults : ∀ error, cut.1 = .error error → error ≠ .format →
    whole.1 = .error error ∧ whole.2.written.length ≤ limit
  /-- Without a limit no sink is full. -/
  neverFull : whole.1 ≠ .error .format

theorem PutsOneText.cutAt {action : Printing Unit} (puts : PutsOneText action) (limit : Nat) :
    CutAt limit (action.runOn (.ofLimit none)) (action.runOn (.ofLimit (some limit))) := by
  obtain ⟨t, result, there, once, noSink⟩ := puts ⟨0, true⟩
  have whole : action.runOn (.ofLimit none) = (result, (Sink.ofLimit none).add t none) :=
    once.runOn_of_put rfl
  have text : (action.runOn (.ofLimit none)).2.written = t := by
    rw [whole]
    exact Sink.written_add _ t none
  rw [← text] at once
  rcases Nat.lt_or_ge limit (action.runOn (.ofLimit none)).2.written.length with longer | room
  · obtain ⟨sink, put, written⟩ := Sink.put_ofLimit_of_lt longer
    obtain ⟨full, left⟩ := once.runOn_of_not_put put
    refine ⟨fun room => absurd room (Nat.not_le.mpr longer), fun _ => ?_, ?_, ?_⟩
    · exact ⟨full, by rw [left, written]⟩
    · intro error failed other
      rw [full] at failed
      cases failed
      exact absurd rfl other
    · rw [whole]
      exact noSink
  · obtain ⟨sink, put, written⟩ := Sink.put_ofLimit_of_le room
    have cut := once.runOn_of_put put
    refine ⟨fun _ => ?_, fun longer => absurd room (Nat.not_le.mpr longer), ?_, ?_⟩
    · exact ⟨by rw [cut, whole], by rw [cut, written]⟩
    · intro error failed _
      rw [cut] at failed
      exact ⟨by rw [whole, ← failed], room⟩
    · rw [whole]
      exact noSink

/-- On a sink with a limit, items and modules are cut there and nowhere else. -/
theorem limit_cuts_text (limit : Nat) :
    (∀ items : List Item,
      CutAt limit (Printing.runOn (Item.printAll items) (.ofLimit none))
        (Printing.runOn (Item.printAll items) (.ofLimit (some limit)))) ∧
    ∀ (schema : Schema) (id : FileId) (options : Options),
      CutAt limit (Module.write schema id options (.ofLimit none))
        (Module.write schema id options (.ofLimit (some limit))) :=
  ⟨fun items => (PutsOneText.printAll items).cutAt limit,
    fun schema id options => (Module.print_putsOneText schema id options).cutAt limit⟩

end GrpcBindings

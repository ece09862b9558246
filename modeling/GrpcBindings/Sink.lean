import GrpcBindings.Error

/-!
Writing text to a sink that may run full. A full sink keeps what still fitted, and what a writer has
written stays in the sink when it fails, for this reason or another.
-/

namespace GrpcBindings

structure Sink where
  /-- What is written, the last character first. Adding text costs as much as that text is long. -/
  backwards : Text := []
  /-- How many more characters the sink takes. Without a number it takes all. -/
  room : Option Nat := none
  deriving DecidableEq, Repr

namespace Sink

/-- A sink that takes so many characters. -/
def ofLimit (limit : Option Nat) : Sink :=
  { room := limit }

def written (sink : Sink) : Text :=
  sink.backwards.reverse

/-- The sink with more text, and with room for so many characters then. -/
def add (sink : Sink) (t : Text) (room : Option Nat) : Sink where
  backwards := t.reverseAux sink.backwards
  room := room

theorem written_add (sink : Sink) (t : Text) (room : Option Nat) :
    (sink.add t room).written = sink.written ++ t := by
  simp only [written, add, List.reverseAux_eq, List.reverse_append, List.reverse_reverse]

/-- The sink after a text, and whether the text fitted. -/
def put (sink : Sink) (t : Text) : Sink × Bool :=
  match sink.room with
  | none => (sink.add t none, true)
  | some room =>
      if t.length ≤ room then (sink.add t (some (room - t.length)), true)
      else (sink.add (t.take room) (some 0), false)

end Sink
end GrpcBindings

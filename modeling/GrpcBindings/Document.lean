import GrpcBindings.Sink

/-!
Indented documents and their printing. Indentation belongs to the first text of a line, so an empty
line has none, and text that contains line feeds is written as it is.
-/

namespace GrpcBindings

inductive Document where
  | text (t : Text)
  | lineBreak
  | indented (body : Document)
  | append (first second : Document)

namespace Document

def empty : Document :=
  text []

instance : Append Document := ⟨append⟩

/-- A text and the end of its line. -/
def line (t : Text) : Document :=
  text t ++ lineBreak

def concat : List Document → Document
  | [] => empty
  | first :: rest => first ++ concat rest

end Document

/-- Where a printer stands: its sink, how deep it is indented, and whether a line begins here. -/
structure Printer where
  sink : Sink
  level : Nat := 0
  atLineStart : Bool := true
  deriving DecidableEq, Repr

/-- Printing changes the printer also where it fails. -/
abbrev Printing := ExceptT Error (StateM Printer)

namespace Printer

def ofSink (sink : Sink) : Printer :=
  { sink }

/-- One level of indentation. -/
def indentation : Text := "  "

def putRaw (t : Text) : Printing Unit := fun printer =>
  match printer.sink.put t with
  | (sink, true) => (.ok (), { printer with sink })
  | (sink, false) => (.error .format, { printer with sink })

/-- Puts the indentation unit by unit. -/
def indent (level : Nat) : Printing Unit :=
  (List.replicate level indentation).forM putRaw

def setLineStart (atLineStart : Bool) : Printing Unit :=
  modify fun printer => { printer with atLineStart }

/-- Indents the line if it begins here. It has begun when all of that is put. -/
def startLine : Printing Unit := fun printer =>
  if printer.atLineStart then (indent printer.level >>= fun _ => setLineStart false) printer
  else (.ok (), printer)

def putText : Text → Printing Unit
  | [] => pure ()
  | t => do
      startLine
      putRaw t

def breakLine : Printing Unit := do
  putRaw ['\n']
  setLineStart true

/-- Prints one level deeper, and comes back also from a failure. -/
def deeper (body : Printing Unit) : Printing Unit := fun printer =>
  let (result, after) := body { printer with level := printer.level + 1 }
  (result, { after with level := after.level - 1 })

end Printer

namespace Document

def print : Document → Printing Unit
  | text t => Printer.putText t
  | lineBreak => Printer.breakLine
  | indented body => Printer.deeper body.print
  | append first second => do
      first.print
      second.print

end Document
end GrpcBindings

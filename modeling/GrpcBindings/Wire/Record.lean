import GrpcBindings.Text

/-!
Decoded messages: the known fields by number, in the order of the input. A field that is given again
is there again, so the fields of two messages that are merged are those of the one and then those of
the other.
-/

namespace GrpcBindings
namespace Wire

mutual

inductive Payload where
  | text (content : Text)
  | flag (content : Bool)
  | integers (content : List Int)
  | record (content : Record)
  deriving Inhabited

inductive Record where
  | nil
  | cons (number : Nat) (payload : Payload) (rest : Record)
  deriving Inhabited

end

namespace Record

/-- Everything a field holds, in order. -/
def payloads (number : Nat) : Record → List Payload
  | nil => []
  | cons n payload rest =>
      if n = number then payload :: payloads number rest else payloads number rest

def texts (number : Nat) (record : Record) : List Text :=
  (record.payloads number).filterMap fun
    | .text content => some content
    | _ => none

/-- The text of a field that holds one. The last counts. -/
def text? (number : Nat) (record : Record) : Option Text :=
  (record.texts number).getLast?

def flag? (number : Nat) (record : Record) : Option Bool :=
  ((record.payloads number).filterMap fun
    | .flag content => some content
    | _ => none).getLast?

def integers (number : Nat) (record : Record) : List Int :=
  (record.payloads number).flatMap fun
    | .integers content => content
    | _ => []

def records (number : Nat) (record : Record) : List Record :=
  (record.payloads number).filterMap fun
    | .record content => some content
    | _ => none

end Record
end Wire
end GrpcBindings

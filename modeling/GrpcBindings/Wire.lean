import GrpcBindings.Text

/-!
The wire format of messages: the types that tell how long a field is, and what can be wrong with the
octets of a message.
-/

namespace GrpcBindings
namespace Wire

inductive WireType where
  | varint
  | fixed64
  | lengthDelimited
  | startGroup
  | endGroup
  | fixed32
  deriving DecidableEq, Repr

namespace WireType

def ofNat? : Nat → Option WireType
  | 0 => some varint
  | 1 => some fixed64
  | 2 => some lengthDelimited
  | 3 => some startGroup
  | 4 => some endGroup
  | 5 => some fixed32
  | _ => none

def toNat : WireType → Nat
  | varint => 0
  | fixed64 => 1
  | lengthDelimited => 2
  | startGroup => 3
  | endGroup => 4
  | fixed32 => 5

def name : WireType → Text
  | varint => "Varint"
  | fixed64 => "SixtyFourBit"
  | lengthDelimited => "LengthDelimited"
  | startGroup => "StartGroup"
  | endGroup => "EndGroup"
  | fixed32 => "ThirtyTwoBit"

end WireType

inductive Fault where
  | invalidVarint
  | invalidKey (key : Nat)
  | invalidWireType (wireType : Nat)
  | invalidFieldNumber (number : Nat)
  | unexpectedWireType (actual expected : WireType)
  /-- A length reaches behind the end of the input. -/
  | underflow
  /-- The fields of a message reach behind the end of the message. -/
  | lengthExceeded
  | notUtf8
  | unexpectedEndGroup
  | nestedTooDeeply
  deriving DecidableEq, Repr

namespace Fault

def message : Fault → Text
  | invalidVarint => "invalid varint"
  | invalidKey key => "invalid key value: " ++ Text.decimal key
  | invalidWireType wireType => "invalid wire type value: " ++ Text.decimal wireType
  | invalidFieldNumber number => "invalid tag value: " ++ Text.decimal number
  | unexpectedWireType actual expected =>
      "invalid wire type: " ++ actual.name ++ " (expected " ++ expected.name ++ ")"
  | underflow => "buffer underflow"
  | lengthExceeded => "delimited length exceeded"
  | notUtf8 => "invalid string value: data is not UTF-8 encoded"
  | unexpectedEndGroup => "unexpected end group tag"
  | nestedTooDeeply => "recursion limit reached"

end Fault

/-- A known field, by the names of its message and of itself. -/
structure FieldName where
  message : Text
  field : Text
  deriving DecidableEq, Repr

namespace FieldName

def text (name : FieldName) : Text :=
  name.message ++ "." ++ name.field ++ ": "

end FieldName

structure DecodeError where
  fault : Fault
  /-- The known fields around the fault, the innermost first. -/
  path : List FieldName := []
  deriving DecidableEq, Repr

namespace DecodeError

def inside (field : FieldName) (error : DecodeError) : DecodeError :=
  { error with path := error.path ++ [field] }

def message (error : DecodeError) : Text :=
  "failed to decode Protobuf message: " ++ error.path.flatMap (·.text) ++ error.fault.message

end DecodeError

/-- Octets that are left to read, with their number at hand. -/
structure Input where
  octets : Octets
  size : Nat
  size_eq : size = octets.length

namespace Input

def ofOctets (octets : Octets) : Input :=
  ⟨octets, octets.length, rfl⟩

def drop (input : Input) (count : Nat) : Input :=
  ⟨input.octets.drop count, input.size - count, by rw [List.length_drop, input.size_eq]⟩

end Input

/-- What was read from an input, and a rest that is shorter than the input. -/
structure Read (α : Type) (input : Input) where
  value : α
  rest : Input
  shorter : rest.size < input.size

end Wire
end GrpcBindings

import GrpcBindings.Text.Utf8
import GrpcBindings.Wire.Varint

/-!
Encoding of fields.
-/

namespace GrpcBindings
namespace Wire

def encodeKey (number : Nat) (wireType : WireType) : Octets :=
  varint (8 * number + wireType.toNat)

def encodeNumber (number content : Nat) : Octets :=
  encodeKey number .varint ++ varint content

def encodeOctets (number : Nat) (content : Octets) : Octets :=
  encodeKey number .lengthDelimited ++ varint content.length ++ content

def encodeText (number : Nat) (content : Text) : Octets :=
  encodeOctets number content.utf8

end Wire
end GrpcBindings

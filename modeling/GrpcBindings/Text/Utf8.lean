import GrpcBindings.Text

/-!
The octets of a text, and the text of a sequence of octets if they encode one.
-/

namespace GrpcBindings

namespace Text

def utf8 (t : Text) : Octets :=
  t.flatMap String.utf8EncodeChar

def ofUtf8? (octets : Octets) : Option Text :=
  (String.fromUTF8? octets.toByteArray).map String.toList

end Text
end GrpcBindings

import GrpcBindings.Descriptor.Decoding
import GrpcBindings.Error

/-!
What a schema compiler asks for: the files to generate, the parameter, and descriptors of those
files and of all that they depend on.
-/

namespace GrpcBindings

structure Request where
  filesToGenerate : List Text
  parameter : Option Text
  descriptors : List FileDescriptor

namespace Request

def ofRecord (record : Wire.Record) : Request where
  filesToGenerate := record.texts 1
  parameter := record.text? 2
  descriptors := (record.records 15).map .ofRecord

def decode (octets : Octets) : Except Error Request :=
  match Wire.decode .request octets with
  | .ok record => .ok (ofRecord record)
  | .error error => .error (.malformedRequest error.message)

end Request
end GrpcBindings

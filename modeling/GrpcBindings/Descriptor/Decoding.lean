import GrpcBindings.Descriptor
import GrpcBindings.Wire.Decoding

/-!
Descriptors from decoded messages.
-/

namespace GrpcBindings

open Wire

namespace Location

def ofRecord (record : Record) : Location where
  path := record.integers 1
  leading := record.text? 3
  trailing := record.text? 4
  detached := record.texts 6

end Location

namespace MethodDescriptor

def ofRecord (record : Record) : MethodDescriptor where
  name := record.text? 1
  input := record.text? 2
  output := record.text? 3
  clientStreaming := record.flag? 5
  serverStreaming := record.flag? 6

end MethodDescriptor

namespace ServiceDescriptor

def ofRecord (record : Record) : ServiceDescriptor where
  name := record.text? 1
  methods := (record.records 2).map .ofRecord

end ServiceDescriptor

namespace MessageDescriptor

/-- The messages that a field holds. Messages nested in them are in their field 3. -/
def listOfField : (number : Nat) → Record → List MessageDescriptor
  | _, .nil => []
  | number, .cons n (.record content) rest =>
      if n = number then
        .mk (content.text? 1) (listOfField 3 content) :: listOfField number rest
      else listOfField number rest
  | number, .cons _ _ rest => listOfField number rest

end MessageDescriptor

namespace FileDescriptor

/-- The locations of all source information that was given. -/
def locationsOf (record : Record) : Option (List Location) :=
  match record.records 9 with
  | [] => none
  | infos => some ((infos.flatMap (·.records 1)).map .ofRecord)

def ofRecord (record : Record) : FileDescriptor where
  name := record.text? 1
  package := record.text? 2
  dependencies := record.texts 3
  messages := MessageDescriptor.listOfField 4 record
  services := (record.records 6).map .ofRecord
  locations := locationsOf record

end FileDescriptor
end GrpcBindings

import GrpcBindings.Disk.Path
import GrpcBindings.Exchange

/-!
Generation from a set of descriptors on a disk, into a directory of that disk. Nothing is saved
unless every file can be generated. How a set is encoded is a matter of the decoder alone.
-/

namespace GrpcBindings
namespace DescriptorSet

def ofRecord (record : Wire.Record) : List FileDescriptor :=
  (record.records 1).map .ofRecord

abbrev Decoder := Octets → Except Wire.DecodeError (List FileDescriptor)

/-- The decoder of the program. -/
def decode : Decoder := fun octets =>
  (Wire.decode .descriptorSet octets).map ofRecord

/-- The files of a generation from an encoded set. Without a choice all files of the set are
generated. -/
def generate (decoder : Decoder) (setPath parameter : Text) (chosen : List Text)
    (octets : Octets) : Except RunError (List GeneratedFile) :=
  match decoder octets with
  | .error error => .error (.descriptorSet setPath error)
  | .ok descriptors =>
      let paths := if chosen.isEmpty then descriptors.map (·.path) else chosen
      match Generation.run descriptors paths parameter with
      | .error error => .error (.rejected error)
      | .ok generation =>
          match generation.errorMessage? with
          | some failures => .error (.incomplete failures)
          | none => .ok generation.files

variable {m : Type → Type} [Monad m]

/-- Saves a file below a directory, and tells where. -/
def saveBelow (disk : Disk m) (directory : Text) (file : GeneratedFile) :
    ExceptT RunError m Text := do
  let path := Disk.Path.join directory file.name
  let ancestors := Disk.Path.ancestors path
  Exchange.attempt (disk.createDirectories ancestors)
    (.createDirectory (ancestors.head?.getD []))
  Exchange.attempt (disk.save path file.content.utf8) (.save path)
  return path

/-- Generates into a directory, and tells the paths of the files in their order. -/
def run (disk : Disk m) (setPath directory parameter : Text) (chosen : List Text)
    (decoder : Decoder := decode) : ExceptT RunError m (List Text) := do
  let octets ← Exchange.attempt (disk.load setPath) (.load setPath)
  let files ← generate decoder setPath parameter chosen octets
  files.mapM (saveBelow disk directory)

end DescriptorSet
end GrpcBindings

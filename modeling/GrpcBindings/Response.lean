import GrpcBindings.Generation
import GrpcBindings.Request
import GrpcBindings.Wire.Encoding

/-!
Answers to requests. An answer has all the files that were asked for or, if one of them fails, an
error that tells of every failure and no file.
-/

namespace GrpcBindings

structure Response where
  error : Option Text
  files : List GeneratedFile
  deriving DecidableEq, Repr

namespace Response

/-- The one optional feature that the generator announces: optional fields without a message type
of their own. -/
def supportedFeatures : Nat := 1

def ofGeneration (generation : Generation) : Response :=
  match generation.errorMessage? with
  | some message => { error := some message, files := [] }
  | none => { error := none, files := generation.files }

def encodeFile (file : GeneratedFile) : Octets :=
  Wire.encodeText 1 file.name ++ Wire.encodeText 15 file.content

def encode (response : Response) : Octets :=
  (match response.error with
    | some message => Wire.encodeText 1 message
    | none => []) ++
    Wire.encodeNumber 2 supportedFeatures ++
    response.files.flatMap fun file => Wire.encodeOctets 15 (encodeFile file)

end Response

namespace Request

def respond (request : Request) : Response :=
  match Generation.run request.descriptors request.filesToGenerate
      (request.parameter.getD []) with
  | .ok generation => .ofGeneration generation
  | .error error => { error := some error.message, files := [] }

end Request
end GrpcBindings

import GrpcBindings.Wire

/-!
The messages that are read, and those of their fields that are known.
-/

namespace GrpcBindings
namespace Wire

inductive Kind where
  | request
  | descriptorSet
  | file
  | message
  | service
  | method
  | sourceInfo
  | location
  deriving DecidableEq, Repr

/-- What a known field holds. -/
inductive Shape where
  | text
  | flag
  | integers
  | record (kind : Kind)
  deriving DecidableEq, Repr

structure KnownField where
  name : Text
  shape : Shape
  deriving DecidableEq, Repr

namespace Kind

def name : Kind → Text
  | request => "CodeGeneratorRequest"
  | descriptorSet => "FileDescriptorSet"
  | file => "FileDescriptorProto"
  | message => "DescriptorProto"
  | service => "ServiceDescriptorProto"
  | method => "MethodDescriptorProto"
  | sourceInfo => "SourceCodeInfo"
  | location => "Location"

def field? : Kind → (number : Nat) → Option KnownField
  | request, 1 => some ⟨"file_to_generate", .text⟩
  | request, 2 => some ⟨"parameter", .text⟩
  | request, 15 => some ⟨"proto_file", .record file⟩
  | descriptorSet, 1 => some ⟨"file", .record file⟩
  | file, 1 => some ⟨"name", .text⟩
  | file, 2 => some ⟨"package", .text⟩
  | file, 3 => some ⟨"dependency", .text⟩
  | file, 4 => some ⟨"message_type", .record message⟩
  | file, 6 => some ⟨"service", .record service⟩
  | file, 9 => some ⟨"source_code_info", .record sourceInfo⟩
  | file, 12 => some ⟨"syntax", .text⟩
  | message, 1 => some ⟨"name", .text⟩
  | message, 3 => some ⟨"nested_type", .record message⟩
  | service, 1 => some ⟨"name", .text⟩
  | service, 2 => some ⟨"method", .record method⟩
  | method, 1 => some ⟨"name", .text⟩
  | method, 2 => some ⟨"input_type", .text⟩
  | method, 3 => some ⟨"output_type", .text⟩
  | method, 5 => some ⟨"client_streaming", .flag⟩
  | method, 6 => some ⟨"server_streaming", .flag⟩
  | sourceInfo, 1 => some ⟨"location", .record location⟩
  | location, 1 => some ⟨"path", .integers⟩
  | location, 2 => some ⟨"span", .integers⟩
  | location, 3 => some ⟨"leading_comments", .text⟩
  | location, 4 => some ⟨"trailing_comments", .text⟩
  | location, 6 => some ⟨"leading_detached_comments", .text⟩
  | _, _ => none

end Kind
end Wire
end GrpcBindings

import GrpcBindings.Text

/-!
Descriptors of schema files, as a schema compiler hands them over. What it left out is absent here
too: absent text reads as empty and an absent flag as false.
-/

namespace GrpcBindings

/-- The comments around the element that a path of field numbers and positions leads to. -/
structure Location where
  path : List Int
  leading : Option Text
  trailing : Option Text
  detached : List Text
  deriving DecidableEq, Repr

structure MethodDescriptor where
  name : Option Text
  input : Option Text
  output : Option Text
  clientStreaming : Option Bool
  serverStreaming : Option Bool
  deriving DecidableEq, Repr

structure ServiceDescriptor where
  name : Option Text
  methods : List MethodDescriptor
  deriving DecidableEq, Repr

inductive MessageDescriptor where
  | mk (name : Option Text) (nested : List MessageDescriptor)
  deriving Inhabited

structure FileDescriptor where
  name : Option Text
  package : Option Text
  dependencies : List Text
  messages : List MessageDescriptor
  services : List ServiceDescriptor
  /-- Absent if the file was compiled without source information. -/
  locations : Option (List Location)

namespace FileDescriptor

def path (file : FileDescriptor) : Text :=
  file.name.getD []

def packageName (file : FileDescriptor) : Text :=
  file.package.getD []

end FileDescriptor
end GrpcBindings

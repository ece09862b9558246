import GrpcBindings.Text.LowerCase

/-!
Names in generated code that are made from names in a schema.
-/

namespace GrpcBindings

/-- A full name as a part of an identifier. -/
def flatName (fullName : Text) : Text :=
  fullName.map fun c => if c = '.' then '_' else c

def lowerFirst : Text → Text
  | [] => []
  | c :: rest => Text.lowerCase c ++ rest

end GrpcBindings

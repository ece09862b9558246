import GrpcBindings.ModuleAlias

/-!
How generated code refers to the class of a message: the alias of the module that declares it, and
the name of the message within its package.
-/

namespace GrpcBindings

/-- The name of a message without its package. -/
def localName (fullName package : Text) : Except Error Text :=
  if package = [] then .ok fullName
  else
    match List.isPrefixOf? package fullName with
    | some ('.' :: rest) => .ok rest
    | _ => .error (.packageMismatch fullName package)

/-- The reference to a message that the file with the given path and package declares. -/
def objectPath (fullName path package : Text) : Except Error Text := do
  return moduleAlias path ++ "." ++ (← localName fullName package)

end GrpcBindings

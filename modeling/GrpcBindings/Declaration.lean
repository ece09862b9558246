import GrpcBindings.Text.SingleQuoted

/-!
Declarations of a generated module: the items it is made of, the members of its interfaces and the
values of its constants. Types, statements and parameters' types are text.
-/

namespace GrpcBindings

/-- The key of a member of an interface or an object. -/
inductive Key where
  | bare (name : Text)
  | quoted (name : Text)
  deriving DecidableEq, Repr, Inhabited

namespace Key

/-- A bare `new` would declare a constructor. -/
def ofName (name : Text) : Key :=
  if name = "new" then quoted name else bare name

def text : Key → Text
  | bare name => name
  | quoted name => name.singleQuoted

end Key

structure Parameter where
  name : Text
  type : Text
  isOptional : Bool := false
  deriving DecidableEq, Repr

/-- Whether the parameters of a method share a line or have a line each. -/
inductive ParameterLayout where
  | inline
  | stacked
  deriving DecidableEq, Repr

mutual

inductive Value where
  | identifier (name : Text)
  | string (content : Text)
  | boolean (flag : Bool)
  | object (entries : List Entry)
  /-- A value that is asserted to have a type. -/
  | cast (type : Text) (value : Value)
  | call (callee : Text) (arguments : List Value)
  deriving Inhabited

inductive Entry where
  | mk (key : Key) (value : Value)
  deriving Inhabited

end

inductive Member where
  | comment (block : Text)
  | property (key : Key) (type : Text)
  | method (key : Key) (parameters : List Parameter) (returns : Text) (layout : ParameterLayout)
  | construct (parameters : List Parameter) (returns : Text)
  /-- An empty line between members. -/
  | gap
  deriving DecidableEq, Repr

inductive Item where
  | comment (block : Text)
  | namespaceImport (importAlias specifier : Text)
  | function (name : Text) (parameters : List Parameter) (returns : Text) (body : List Text)
  | interface (name : Text) (extended : Option Text) (members : List Member)
  | constant (name : Text) (type : Option Text) (value : Value)
  | blank

end GrpcBindings

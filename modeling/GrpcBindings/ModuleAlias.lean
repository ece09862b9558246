import GrpcBindings.SchemaPath

/-!
The name under which a module with messages is imported. It spells the stem of the schema path, and
a dollar sign begins the spelling of every character that an identifier cannot hold in its place.
-/

namespace GrpcBindings
namespace ModuleAlias

def isPlain (c : Char) : Bool :=
  c.isAlphanum || c = '_'

/-- The spelling of a character that need not be the first. -/
def spell (c : Char) : Text :=
  if c = '/' then "$s"
  else if c = '.' then "$d"
  else if c = '-' then "$h"
  else if c = '$' then "$$"
  else if isPlain c then [c]
  else if c.toNat ≤ 0xffff then "$u" ++ Text.hexadecimalPadded 4 c.toNat
  else "$U" ++ Text.hexadecimalPadded 8 c.toNat

/-- A stem in characters of an identifier. A digit is spelled only where it would come first. -/
def ofStem : Text → Text
  | [] => []
  | c :: rest => (if c.isDigit then "$n" ++ [c] else spell c) ++ rest.flatMap spell

end ModuleAlias

def moduleAlias (path : Text) : Text :=
  ModuleAlias.ofStem (SchemaPath.stem path) ++ "_pb"

end GrpcBindings

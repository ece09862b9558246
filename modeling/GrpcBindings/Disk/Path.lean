import GrpcBindings.Text

/-!
Paths on a disk: appending one to another, and the directory around what a path leads to. Empty
segments and dots between slashes lead nowhere, apart from a dot at the beginning.
-/

namespace GrpcBindings
namespace Disk.Path

def isAbsolute (path : Text) : Bool :=
  path.head? = some '/'

/-- A path from where another leads to. An absolute path starts over. -/
def join (base path : Text) : Text :=
  if isAbsolute path then path
  else if base = [] ∨ base.getLast? = some '/' then base ++ path
  else base ++ "/" ++ path

/-- The beginning of a path that no step up removes segment by segment, and the rest. -/
def splitAnchor : Text → Text × Text
  | '/' :: rest => (['/'], rest)
  | '.' :: '/' :: rest => (['.'], '/' :: rest)
  | ['.'] => (['.'], [])
  | path => ([], path)

def isIdle (segment : Text) : Bool :=
  segment = [] || segment = ['.']

/-- The paths of all directories around a file, the innermost first, from the segments behind the
anchor, the last first. The file itself is not among them. -/
def outward (anchor : Text) : List Text → List Text
  | [] => if anchor = [] then [] else [anchor]
  | segment :: outer =>
      if isIdle segment then outward anchor outer
      else (anchor ++ Text.join "/" (segment :: outer).reverse) :: outward anchor outer

/-- The directories around what a path leads to, the innermost first. -/
def ancestors (path : Text) : List Text :=
  let (anchor, rest) := splitAnchor path
  match (rest.pieces '/').reverse.dropWhile isIdle with
  | [] => []
  | _ :: outer => outward anchor outer

end Disk.Path
end GrpcBindings

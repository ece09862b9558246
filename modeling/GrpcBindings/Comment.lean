import GrpcBindings.Descriptor
import GrpcBindings.Text.Lines

/-!
Comments of schema elements: where they are found, the lines they consist of, and the block of
comment lines that generated code shows them as.
-/

namespace GrpcBindings

structure SourceComments where
  leading : Option Text := none
  trailing : Option Text := none
  /-- Blocks before the leading one, apart from it and from each other. -/
  detached : List Text := []
  deriving DecidableEq, Repr

namespace SourceComments

def isEmpty (comments : SourceComments) : Bool :=
  comments.leading.isNone && comments.trailing.isNone && comments.detached.isEmpty

def ofLocation (location : Location) : SourceComments :=
  { leading := location.leading, trailing := location.trailing, detached := location.detached }

/-- The comments at a path. Only the first location of the path counts. -/
def find? (locations : List Location) (path : List Int) : Option SourceComments :=
  match locations.find? fun location => location.path = path with
  | none => none
  | some location =>
      let comments := ofLocation location
      if comments.isEmpty then none else some comments

end SourceComments

/-- The elements whose comments are shown. -/
inductive Element where
  | file
  | service
  | method
  deriving DecidableEq, Repr

inductive CommentSide where
  | leading
  | trailing
  deriving DecidableEq, Repr

namespace Comment

/-- The lines before an element. An empty line follows every detached block. -/
def leadingLines (comments : SourceComments) : List Text :=
  (comments.detached.flatMap fun block => block.lines ++ [[]]) ++ (comments.leading.getD []).lines

/-- The lines after an element. A file has none. -/
def trailingLines : Element → SourceComments → List Text
  | .file, _ => []
  | .service, comments | .method, comments => (comments.trailing.getD []).lines

def lines (element : Element) (side : CommentSide) : Option SourceComments → List Text
  | none => []
  | some comments =>
      match side with
      | .leading => leadingLines comments
      | .trailing => trailingLines element comments

/-- A line behind its marker, with a space between them unless the line brings one or is empty. -/
def markLine (marker line : Text) : Text :=
  match line with
  | [] => marker
  | ' ' :: _ => marker ++ line
  | _ => marker ++ " " ++ line

def format (lines : List Text) (marker : Text) : Text :=
  lines.flatMap fun line => markLine marker line ++ "\n"

/-- The comments at one side of an element as a block of comment lines, empty if there are none. -/
def block (element : Element) (side : CommentSide) (comments : Option SourceComments)
    (marker : Text) : Text :=
  format (lines element side comments) marker

/-- The marker of comment lines in generated code. -/
def lineMarker : Text := "//"

end Comment
end GrpcBindings

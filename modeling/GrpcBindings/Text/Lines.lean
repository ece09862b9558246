import GrpcBindings.Text

/-!
The lines of a text. A line feed ends a line, and takes with it one carriage return before it. A
carriage return elsewhere is part of its line, and no line follows a final line feed.
-/

namespace GrpcBindings
namespace Text

def lines : Text → List Text
  | [] => []
  | '\n' :: rest => [] :: lines rest
  | '\r' :: '\n' :: rest => [] :: lines rest
  | c :: rest =>
      match lines rest with
      | [] => [[c]]
      | line :: more => (c :: line) :: more

end Text
end GrpcBindings

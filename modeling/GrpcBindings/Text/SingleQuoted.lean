import GrpcBindings.Text

/-!
Text between single quotes, as generated code writes string literals. Backslashes, single quotes and
line feeds are escaped.
-/

namespace GrpcBindings
namespace Text

def escapeChar (c : Char) : Text :=
  match c with
  | '\\' => "\\\\"
  | '\'' => "\\'"
  | '\n' => "\\n"
  | _ => [c]

def singleQuoted (t : Text) : Text :=
  "'" ++ t.flatMap escapeChar ++ "'"

end Text
end GrpcBindings

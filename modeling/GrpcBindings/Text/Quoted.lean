import GrpcBindings.Text.Unprintable

/-!
A text in double quotes, as messages show it: what cannot be seen is spelled out, and a single quote
stands for itself.
-/

namespace GrpcBindings
namespace Text

def spelled (c : Char) : Text :=
  match c with
  | '"' => "\\\""
  | '\\' => "\\\\"
  | '\t' => "\\t"
  | '\r' => "\\r"
  | '\n' => "\\n"
  | '\x00' => "\\0"
  | _ => if isUnprintable c then "\\u\x7b" ++ hexadecimal c.toNat ++ "\x7d" else [c]

def quoted (t : Text) : Text :=
  "\"" ++ t.flatMap spelled ++ "\""

end Text
end GrpcBindings

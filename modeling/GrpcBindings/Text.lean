/-!
Text is a list of characters and binary data a list of octets, so that rules recurse on them. A
string literal stands for the text it spells.
-/

namespace GrpcBindings

abbrev Text := List Char

abbrev Octets := List UInt8

namespace Text

def ofString (s : String) : Text :=
  s.toList

instance : Coe String Text := ⟨ofString⟩

/-- The pieces between the separators. A text without a separator is a single piece. -/
def pieces (sep : Char) : Text → List Text
  | [] => [[]]
  | c :: rest =>
      if c = sep then [] :: pieces sep rest
      else
        match pieces sep rest with
        | [] => [[c]]
        | first :: more => (c :: first) :: more

/-- The text before the first separator and the text after it. -/
def cut? (sep : Char) : Text → Option (Text × Text)
  | [] => none
  | c :: rest =>
      if c = sep then some ([], rest)
      else (cut? sep rest).map fun (before, after) => (c :: before, after)

def join (sep : Text) : List Text → Text
  | [] => []
  | [only] => only
  | first :: more => first ++ sep ++ join sep more

def decimal (n : Nat) : Text :=
  Nat.toDigits 10 n

def hexadecimal (n : Nat) : Text :=
  Nat.toDigits 16 n

/-- At least `width` digits. -/
def hexadecimalPadded (width n : Nat) : Text :=
  List.leftpad width '0' (hexadecimal n)

end Text
end GrpcBindings

import GrpcBindings.Text

/-!
The tokens of a JSON text.
-/

namespace GrpcBindings
namespace Json

inductive Token where
  | beginArray
  | endArray
  | beginObject
  | endObject
  | comma
  | colon
  | null
  | boolean (flag : Bool)
  | number (spelling : Text)
  /-- Without content if the escapes in it leave half of a surrogate pair alone. -/
  | string (content : Option Text)
  deriving DecidableEq, Repr

/-- What a string spells: a character, or a UTF-16 unit by an escape. -/
inductive StringUnit where
  | char (c : Char)
  | unit (value : Nat)
  deriving DecidableEq, Repr

def hexDigit? (c : Char) : Option Nat :=
  if c.isDigit then some (c.toNat - '0'.toNat)
  else if 'a' ≤ c ∧ c ≤ 'f' then some (c.toNat - 'a'.toNat + 10)
  else if 'A' ≤ c ∧ c ≤ 'F' then some (c.toNat - 'A'.toNat + 10)
  else none

def hexValue? (digits : List Char) : Option Nat :=
  digits.foldlM (fun value c => (hexDigit? c).map (16 * value + ·)) 0

def escaped? : Char → Option Char
  | '"' => some '"'
  | '\\' => some '\\'
  | '/' => some '/'
  | 'b' => some '\x08'
  | 'f' => some '\x0c'
  | 'n' => some '\n'
  | 'r' => some '\r'
  | 't' => some '\t'
  | _ => none

/-- The units of a string up to its closing quote, and what follows that. -/
def stringUnits? : Text → Option (List StringUnit × Text)
  | [] => none
  | '"' :: rest => some ([], rest)
  | '\\' :: 'u' :: a :: b :: c :: d :: rest =>
      match hexValue? [a, b, c, d], stringUnits? rest with
      | some value, some (units, rest) => some (.unit value :: units, rest)
      | _, _ => none
  | '\\' :: c :: rest =>
      match escaped? c, stringUnits? rest with
      | some c, some (units, rest) => some (.char c :: units, rest)
      | _, _ => none
  | c :: rest =>
      if c.toNat < 0x20 ∨ c = '\\' then none
      else (stringUnits? rest).map fun (units, rest) => (.char c :: units, rest)

theorem stringUnits?_shorter {t rest : Text} {units : List StringUnit}
    (h : stringUnits? t = some (units, rest)) : rest.length < t.length := by
  fun_induction stringUnits? t generalizing units rest with
  | case1 => simp at h
  | case2 tail => simp_all
  | case3 a b c d tail value others after hunits _ ih | case5 c tail _ _ others after hunits _ ih =>
      simp only [Option.some.injEq, Prod.mk.injEq] at h
      have := ih hunits
      simp only [List.length_cons, ← h.2]
      omega
  | case4 | case6 | case7 => simp at h
  | case8 c tail _ _ _ _ ih =>
      simp only [Option.map_eq_some_iff, Prod.mk.injEq] at h
      obtain ⟨⟨others, after⟩, hunits, _, rfl⟩ := h
      have := ih hunits
      simp only [List.length_cons]
      omega

/-- The text that units spell, if every surrogate has its partner. -/
def textOfUnits? : List StringUnit → Option Text
  | [] => some []
  | .char c :: rest => (textOfUnits? rest).map (c :: ·)
  | .unit high :: .unit low :: rest =>
      if 0xd800 ≤ high ∧ high < 0xdc00 then
        if 0xdc00 ≤ low ∧ low < 0xe000 then
          (textOfUnits? rest).map
            (Char.ofNat (0x10000 + 0x400 * (high - 0xd800) + (low - 0xdc00)) :: ·)
        else none
      else if 0xdc00 ≤ high ∧ high < 0xe000 then none
      else (textOfUnits? (.unit low :: rest)).map (Char.ofNat high :: ·)
  | .unit value :: rest =>
      if 0xd800 ≤ value ∧ value < 0xe000 then none
      else (textOfUnits? rest).map (Char.ofNat value :: ·)

/-- What follows one digit or more. -/
def dropDigits? : Text → Option Text
  | [] => none
  | c :: rest => if c.isDigit then some (rest.dropWhile (·.isDigit)) else none

/-- What follows a whole number. Only zero begins with the digit zero. -/
def dropWhole? : Text → Option Text
  | '-' :: '0' :: rest | '0' :: rest => some rest
  | '-' :: rest => dropDigits? rest
  | t => dropDigits? t

def dropFraction? : Text → Option Text
  | '.' :: rest => dropDigits? rest
  | t => some t

def dropExponent? : Text → Option Text
  | c :: rest =>
      if c = 'e' ∨ c = 'E' then
        match rest with
        | '+' :: rest | '-' :: rest => dropDigits? rest
        | _ => dropDigits? rest
      else some (c :: rest)
  | [] => some []

def isNumber (t : Text) : Bool :=
  ((dropWhole? t).bind dropFraction?).bind dropExponent? = some []

/-- The characters that numbers consist of. Two numbers never touch. -/
def isNumberChar (c : Char) : Bool :=
  c.isDigit || c = '-' || c = '+' || c = '.' || c = 'e' || c = 'E'

/-- The token that begins with a character, given what follows that, and what follows the token. -/
def token? (c : Char) (rest : Text) : Option (Token × Text) :=
  match c, rest with
  | '[', rest => some (.beginArray, rest)
  | ']', rest => some (.endArray, rest)
  | '\x7b', rest => some (.beginObject, rest)
  | '\x7d', rest => some (.endObject, rest)
  | ',', rest => some (.comma, rest)
  | ':', rest => some (.colon, rest)
  | 'n', 'u' :: 'l' :: 'l' :: rest => some (.null, rest)
  | 't', 'r' :: 'u' :: 'e' :: rest => some (.boolean true, rest)
  | 'f', 'a' :: 'l' :: 's' :: 'e' :: rest => some (.boolean false, rest)
  | '"', rest => (stringUnits? rest).map fun (units, rest) => (.string (textOfUnits? units), rest)
  | c, rest =>
      let spelling := c :: rest.takeWhile isNumberChar
      if isNumber spelling then some (.number spelling, rest.dropWhile isNumberChar) else none

theorem token?_shorter {c : Char} {t rest : Text} {token : Token}
    (h : token? c t = some (token, rest)) : rest.length ≤ t.length := by
  unfold token? at h
  split at h
  case h_10 =>
    simp only [Option.map_eq_some_iff, Prod.mk.injEq] at h
    obtain ⟨⟨units, after⟩, hunits, _, rfl⟩ := h
    exact Nat.le_of_lt (stringUnits?_shorter hunits)
  case h_11 =>
    simp only [Option.ite_none_right_eq_some, Option.some.injEq, Prod.mk.injEq] at h
    rw [← h.2.2]
    exact (List.dropWhile_suffix _).length_le
  all_goals
    simp only [Option.some.injEq, Prod.mk.injEq] at h
    simp only [List.length_cons, ← h.2]
    omega

def isSpace (c : Char) : Bool :=
  c = ' ' || c = '\t' || c = '\n' || c = '\r'

def tokens? : Text → Option (List Token)
  | [] => some []
  | c :: t =>
      if isSpace c then tokens? t
      else
        match h : token? c t with
        | none => none
        | some (token, rest) =>
            have := token?_shorter h
            (tokens? rest).map (token :: ·)
termination_by t => t.length

end Json
end GrpcBindings

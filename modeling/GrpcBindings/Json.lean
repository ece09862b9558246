import GrpcBindings.Json.Token

/-!
JSON values. A text is one value, with no token behind it.
-/

namespace GrpcBindings

inductive Json where
  | null
  | boolean (flag : Bool)
  | number (spelling : Text)
  | string (content : Option Text)
  | array (elements : List Json)
  | object (members : List (Option Text × Json))
  deriving Inhabited

namespace Json

/-- What was read from the beginning of a list of tokens, and a rest that is shorter. -/
structure Parsed (α : Type) (tokens : List Token) where
  value : α
  rest : List Token
  shorter : rest.length < tokens.length

namespace Parsed

variable {α β : Type} {token : Token} {tokens : List Token}

/-- What a single token means. -/
def ofToken (value : α) : Parsed α (token :: tokens) :=
  ⟨value, tokens, by simp only [List.length_cons]; omega⟩

/-- What was read behind a token. -/
def behind (parsed : Parsed α tokens) : Parsed α (token :: tokens) :=
  { parsed with shorter := by have := parsed.shorter; simp only [List.length_cons]; omega }

def map (f : α → β) (parsed : Parsed α tokens) : Parsed β tokens :=
  { parsed with value := f parsed.value }

end Parsed

mutual

def value? (tokens : List Token) : Option (Parsed Json tokens) :=
  match tokens with
  | .null :: _ => some (.ofToken .null)
  | .boolean flag :: _ => some (.ofToken (.boolean flag))
  | .number spelling :: _ => some (.ofToken (.number spelling))
  | .string content :: _ => some (.ofToken (.string content))
  | .beginArray :: .endArray :: _ => some (.behind (.ofToken (.array [])))
  | .beginArray :: rest => (elements? rest).map fun elements => (elements.map .array).behind
  | .beginObject :: .endObject :: _ => some (.behind (.ofToken (.object [])))
  | .beginObject :: rest => (members? rest).map fun members => (members.map .object).behind
  | _ => none
termination_by 2 * tokens.length

/-- The elements of an array, of which there is one at least, and its end. -/
def elements? (tokens : List Token) : Option (Parsed (List Json) tokens) := do
  let first ← value? tokens
  match h : first.rest with
  | .endArray :: rest =>
      return ⟨[first.value], rest, by
        have := first.shorter; rw [h] at this; simp only [List.length_cons] at this; omega⟩
  | .comma :: rest =>
      have : rest.length < tokens.length := by
        have := first.shorter; rw [h] at this; simp only [List.length_cons] at this; omega
      let others ← elements? rest
      return ⟨first.value :: others.value, others.rest, by have := others.shorter; omega⟩
  | _ => none
termination_by 2 * tokens.length + 1

/-- The members of an object, of which there is one at least, and its end. -/
def members? (tokens : List Token) : Option (Parsed (List (Option Text × Json)) tokens) :=
  match tokens with
  | .string key :: .colon :: after => do
      let first ← value? after
      match h : first.rest with
      | .endObject :: rest =>
          return ⟨[(key, first.value)], rest, by
            have := first.shorter; rw [h] at this; simp only [List.length_cons] at this ⊢; omega⟩
      | .comma :: rest =>
          have : rest.length < after.length := by
            have := first.shorter; rw [h] at this; simp only [List.length_cons] at this; omega
          let others ← members? rest
          return ⟨(key, first.value) :: others.value, others.rest, by
            have := others.shorter; simp only [List.length_cons]; omega⟩
      | _ => none
  | _ => none
termination_by 2 * tokens.length + 1

end

def parse? (t : Text) : Option Json := do
  let tokens ← tokens? t
  let parsed ← value? tokens
  if parsed.rest.isEmpty then some parsed.value else none

/-- A character inside a written string. Only what must be escaped is. -/
def escape (c : Char) : Text :=
  match c with
  | '"' => "\\\""
  | '\\' => "\\\\"
  | '\x08' => "\\b"
  | '\x0c' => "\\f"
  | '\n' => "\\n"
  | '\r' => "\\r"
  | '\t' => "\\t"
  | _ => if c.toNat < 0x20 then "\\u" ++ Text.hexadecimalPadded 4 c.toNat else [c]

def writeString (t : Text) : Text :=
  "\"" ++ t.flatMap escape ++ "\""

end Json
end GrpcBindings

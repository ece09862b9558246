import GrpcBindings.Json.Token
import GrpcBindings.Proofs.ScriptLines
import GrpcBindings.Text.SingleQuoted

/-!
String literals between single quotes, by the grammar of a script, and their values, which are
UTF-16 units. Escaped text is a literal for it, unless there is a carriage return in the text: that
one is not escaped, and ends the line of the script within the literal.
-/

namespace GrpcBindings
namespace Text

/-- The UTF-16 units of a code point. -/
def unitsOf (point : Nat) : List Nat :=
  if point < 0x10000 then [point]
  else [0xd800 + (point - 0x10000) / 0x400, 0xdc00 + (point - 0x10000) % 0x400]

def codeUnits (t : Text) : List Nat :=
  t.flatMap fun c => unitsOf c.toNat

/-- What a character stands for behind a backslash. -/
def singleEscape? : Char → Option Nat
  | '\'' => some 0x27
  | '"' => some 0x22
  | '\\' => some 0x5c
  | 'b' => some 0x08
  | 't' => some 0x09
  | 'n' => some 0x0a
  | 'v' => some 0x0b
  | 'f' => some 0x0c
  | 'r' => some 0x0d
  | _ => none

/-- The characters that are more than themselves behind a backslash. -/
def isEscapeCharacter (c : Char) : Bool :=
  (singleEscape? c).isSome || c.isDigit || c = 'x' || c = 'u'

/-- What stands behind a backslash: the units that it gives, and the rest of the text. -/
inductive Escape : Text → List Nat → Text → Prop where
  | single {c : Char} {unit : Nat} {rest : Text} (known : singleEscape? c = some unit) :
      Escape (c :: rest) [unit] rest
  | itself {c : Char} {rest : Text} (plain : isEscapeCharacter c = false)
      (sameLine : isLineTerminator c = false) : Escape (c :: rest) (unitsOf c.toNat) rest
  | null {rest : Text} (alone : ∀ c ∈ rest.head?, c.isDigit = false) : Escape ('0' :: rest) [0] rest
  | hexadecimal {high low : Char} {unit : Nat} {rest : Text}
      (digits : Json.hexValue? [high, low] = some unit) :
      Escape ('x' :: high :: low :: rest) [unit] rest
  | unit {first second third fourth : Char} {unit : Nat} {rest : Text}
      (digits : Json.hexValue? [first, second, third, fourth] = some unit) :
      Escape ('u' :: first :: second :: third :: fourth :: rest) [unit] rest
  | codePoint {digits : Text} {point : Nat} {rest : Text} (filled : digits ≠ [])
      (read : Json.hexValue? digits = some point) (inRange : point ≤ 0x10ffff) :
      Escape ('u' :: '\x7b' :: (digits ++ '\x7d' :: rest)) (unitsOf point) rest
  | lineTerminator {c : Char} {rest : Text} (terminator : isLineTerminator c = true)
      (alone : c = '\r' → rest.head? ≠ some '\n') : Escape (c :: rest) [] rest
  | returnNewline {rest : Text} : Escape ('\r' :: '\n' :: rest) [] rest

/-- What stands behind the opening quote: the value up to the closing one, and the rest. -/
inductive LiteralTail : Text → List Nat → Text → Prop where
  | closing {rest : Text} : LiteralTail ('\'' :: rest) [] rest
  | character {c : Char} {rest after : Text} {value : List Nat} (noQuote : c ≠ '\'')
      (noEscape : c ≠ '\\') (noNewline : c ≠ '\n') (noReturn : c ≠ '\r')
      (others : LiteralTail rest value after) :
      LiteralTail (c :: rest) (unitsOf c.toNat ++ value) after
  | escaped {t rest after : Text} {units value : List Nat} (escape : Escape t units rest)
      (others : LiteralTail rest value after) : LiteralTail ('\\' :: t) (units ++ value) after

/-- A text begins with a literal of a value, and goes on with a rest. -/
def StringLiteral (t : Text) (value : List Nat) (rest : Text) : Prop :=
  ∃ body, t = '\'' :: body ∧ LiteralTail body value rest

/-- No character is half of a surrogate pair, so the first unit tells how many there are. -/
theorem unitsOf_append_inj {c d : Char} {s t : List Nat}
    (same : unitsOf c.toNat ++ s = unitsOf d.toNat ++ t) : c = d ∧ s = t := by
  have noSurrogate : ∀ e : Char, e.toNat < 0xd800 ∨ 0xdfff < e.toNat ∧ e.toNat < 0x110000 :=
    fun e => e.valid
  have validC := noSurrogate c
  have validD := noSurrogate d
  rw [← Char.toNat_inj]
  unfold unitsOf at same
  split at same <;> split at same <;>
    simp only [List.cons_append, List.nil_append, List.cons.injEq] at same
  · exact same
  · omega
  · omega
  · exact ⟨by omega, same.2.2⟩

/-- A text is known by its units. -/
theorem codeUnits_injective : Function.Injective codeUnits := by
  intro t u same
  have filled : ∀ (c : Char) (rest : Text), codeUnits (c :: rest) ≠ [] := by
    intro c rest nothing
    rw [codeUnits, List.flatMap_cons, unitsOf] at nothing
    split at nothing <;> cases nothing
  induction t generalizing u with
  | nil =>
      cases u with
      | nil => rfl
      | cons d others => exact absurd same.symm (filled d others)
  | cons c rest ih =>
      cases u with
      | nil => exact absurd same (filled c rest)
      | cons d others =>
          obtain ⟨rfl, tails⟩ := unitsOf_append_inj same
          rw [ih tails]

theorem escape_iff_of_single {c : Char} {unit : Nat} (known : singleEscape? c = some unit)
    (rest : Text) (units : List Nat) (after : Text) :
    Escape (c :: rest) units after ↔ units = [unit] ∧ after = rest := by
  constructor
  · intro escape
    cases escape with
    | single again =>
        cases known.symm.trans again
        exact ⟨rfl, rfl⟩
    | itself plain _ => simp [isEscapeCharacter, known] at plain
    | null _ => cases known
    | hexadecimal _ => cases known
    | unit _ => cases known
    | codePoint _ _ _ => cases known
    | lineTerminator terminator _ =>
        simp only [isLineTerminator, Bool.or_eq_true, decide_eq_true_eq] at terminator
        rcases terminator with ((rfl | rfl) | rfl) | rfl <;> cases known
    | returnNewline => cases known
  · rintro ⟨rfl, rfl⟩
    exact .single known

theorem literalTail_escaped_iff (t : Text) (value : List Nat) (after : Text) :
    LiteralTail ('\\' :: t) value after ↔
      ∃ units rest others, Escape t units rest ∧ value = units ++ others ∧
        LiteralTail rest others after := by
  constructor
  · intro tail
    cases tail with
    | character _ noEscape _ _ _ => exact absurd rfl noEscape
    | escaped escape others => exact ⟨_, _, _, escape, rfl, others⟩
  · rintro ⟨units, rest, others, escape, rfl, tail⟩
    exact .escaped escape tail

theorem literalTail_character_iff {c : Char} (noQuote : c ≠ '\'') (noEscape : c ≠ '\\')
    (noNewline : c ≠ '\n') (rest : Text) (value : List Nat) (after : Text) :
    LiteralTail (c :: rest) value after ↔
      c ≠ '\r' ∧ ∃ others, value = unitsOf c.toNat ++ others ∧ LiteralTail rest others after := by
  constructor
  · intro tail
    cases tail with
    | closing => exact absurd rfl noQuote
    | character _ _ _ noReturn others => exact ⟨noReturn, _, rfl, others⟩
    | escaped _ _ => exact absurd rfl noEscape
  · rintro ⟨noReturn, others, rfl, tail⟩
    exact .character noQuote noEscape noNewline noReturn tail

theorem literalTail_closing_iff (rest : Text) (value : List Nat) (after : Text) :
    LiteralTail ('\'' :: rest) value after ↔ value = [] ∧ after = rest := by
  constructor
  · intro tail
    cases tail with
    | closing => exact ⟨rfl, rfl⟩
    | character noQuote _ _ _ _ => exact absurd rfl noQuote
  · rintro ⟨rfl, rfl⟩
    exact .closing

/-- Characters that are escaped are so by a single character for their only unit. -/
theorem escapeChar_cases (c : Char) :
    (∃ name unit, escapeChar c = ['\\', name] ∧ singleEscape? name = some unit ∧
      unitsOf c.toNat = [unit] ∧ c ≠ '\r') ∨
    (escapeChar c = [c] ∧ c ≠ '\'' ∧ c ≠ '\\' ∧ c ≠ '\n') := by
  unfold escapeChar
  split
  · exact .inl ⟨'\\', _, rfl, rfl, rfl, by decide⟩
  · exact .inl ⟨'\'', _, rfl, rfl, rfl, by decide⟩
  · exact .inl ⟨'n', _, rfl, rfl, rfl, by decide⟩
  · next noEscape noQuote noNewline => exact .inr ⟨rfl, noQuote, noEscape, noNewline⟩

theorem literalTail_escapeChar_iff (c : Char) (rest : Text) (value : List Nat) (after : Text) :
    LiteralTail (escapeChar c ++ rest) value after ↔
      c ≠ '\r' ∧ ∃ others, value = unitsOf c.toNat ++ others ∧ LiteralTail rest others after := by
  rcases escapeChar_cases c with ⟨name, unit, written, known, units, noReturn⟩ |
    ⟨written, noQuote, noEscape, noNewline⟩
  · rw [written, units, List.cons_append, List.singleton_append, literalTail_escaped_iff]
    constructor
    · rintro ⟨_, _, others, escape, rfl, tail⟩
      obtain ⟨rfl, rfl⟩ := (escape_iff_of_single known rest _ _).mp escape
      exact ⟨noReturn, others, rfl, tail⟩
    · rintro ⟨_, others, rfl, tail⟩
      exact ⟨[unit], rest, others, .single known, rfl, tail⟩
  · rw [written, List.singleton_append, literalTail_character_iff noQuote noEscape noNewline]

/-- Behind the opening quote, escaped text and a closing quote are read as the text if it has no
carriage return, and not at all otherwise. -/
theorem literalTail_escape_iff (t rest : Text) (value : List Nat) (after : Text) :
    LiteralTail (t.flatMap escapeChar ++ '\'' :: rest) value after ↔
      '\r' ∉ t ∧ value = t.codeUnits ∧ after = rest := by
  induction t generalizing value with
  | nil =>
      rw [List.flatMap_nil, List.nil_append, literalTail_closing_iff]
      exact (and_iff_right List.not_mem_nil).symm
  | cons c t ih =>
      rw [List.flatMap_cons, List.append_assoc, literalTail_escapeChar_iff, List.mem_cons, not_or]
      constructor
      · rintro ⟨noReturn, others, rfl, tail⟩
        obtain ⟨noReturns, rfl, rfl⟩ := (ih others).mp tail
        exact ⟨⟨Ne.symm noReturn, noReturns⟩, rfl, rfl⟩
      · rintro ⟨⟨noReturn, noReturns⟩, rfl, rfl⟩
        exact ⟨Ne.symm noReturn, codeUnits t, rfl, (ih _).mpr ⟨noReturns, rfl, rfl⟩⟩

theorem stringLiteral_singleQuoted_iff (t rest : Text) (value : List Nat) (after : Text) :
    StringLiteral (t.singleQuoted ++ rest) value after ↔
      '\r' ∉ t ∧ value = t.codeUnits ∧ after = rest := by
  have written : t.singleQuoted ++ rest = '\'' :: (t.flatMap escapeChar ++ '\'' :: rest) := by
    rw [singleQuoted, List.append_assoc, List.append_assoc]
    rfl
  rw [← literalTail_escape_iff t rest, StringLiteral, written]
  constructor
  · rintro ⟨body, same, tail⟩
    cases same
    exact tail
  · exact fun tail => ⟨_, rfl, tail⟩

end Text
end GrpcBindings

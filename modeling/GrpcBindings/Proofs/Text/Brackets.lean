import Mathlib.Data.List.Basic
import GrpcBindings.Proofs.Text.Lines
import GrpcBindings.Text.SingleQuoted

/-!
Brackets of three kinds and their nesting, as a grammar and as a check that goes through a text
once and keeps the closing brackets that are still to come. Both depend on the brackets of a text
only, so neither its lines nor the escapes of a string literal have an influence on them.
-/

namespace GrpcBindings
namespace Text

def bracketPairs : List (Char × Char) :=
  [('(', ')'), ('\x7b', '\x7d'), ('<', '>')]

def isBracket (c : Char) : Bool :=
  bracketPairs.any fun (opening, closing) => c = opening || c = closing

/-- Every bracket is closed by its own kind, and what it encloses is balanced too. Anything else may
stand anywhere. -/
inductive Balanced : Text → Prop where
  | empty : Balanced []
  | plain {c : Char} {rest : Text} (noBracket : isBracket c = false) (behind : Balanced rest) :
      Balanced (c :: rest)
  | enclosed {opening closing : Char} {inner rest : Text}
      (pair : (opening, closing) ∈ bracketPairs) (inside : Balanced inner)
      (behind : Balanced rest) : Balanced (opening :: (inner ++ closing :: rest))

theorem Balanced.append {t u : Text} (first : Balanced t) (second : Balanced u) :
    Balanced (t ++ u) := by
  induction first with
  | empty => exact second
  | plain noBracket _ ih => exact .plain noBracket ih
  | enclosed pair inside _ _ ih =>
      rw [List.cons_append, List.append_assoc, List.cons_append]
      exact .enclosed pair inside ih

theorem Balanced.flatMap {α : Type} {f : α → Text} {xs : List α}
    (each : ∀ x ∈ xs, Balanced (f x)) : Balanced (xs.flatMap f) := by
  induction xs with
  | nil => exact .empty
  | cons x rest ih =>
      rw [List.forall_mem_cons] at each
      rw [List.flatMap_cons]
      exact each.1.append (ih each.2)

theorem Balanced.join {sep : Text} (between : Balanced sep) {pieces : List Text}
    (each : ∀ piece ∈ pieces, Balanced piece) : Balanced (Text.join sep pieces) := by
  induction pieces with
  | nil => exact .empty
  | cons first rest ih =>
      rw [List.forall_mem_cons] at each
      cases rest with
      | nil => exact each.1
      | cons second more => exact (each.1.append between).append (ih each.2)

/-- The closing brackets that are expected behind a character, the next one first. -/
def nest? (expected : List Char) (c : Char) : Option (List Char) :=
  match bracketPairs.lookup c with
  | some closing => some (closing :: expected)
  | none =>
      if isBracket c then if expected.head? = some c then some expected.tail else none
      else some expected

/-- The closing brackets that are expected behind a text, if those in it came as expected. -/
def unclosed? (expected : List Char) (t : Text) : Option (List Char) :=
  t.foldlM nest? expected

theorem nest?_of_noBracket {c : Char} (noBracket : isBracket c = false) (expected : List Char) :
    nest? expected c = some expected := by
  have notOpening : bracketPairs.lookup c = none := by
    rw [List.lookup_eq_none_iff]
    intro pair member
    have other := List.any_eq_false.mp noBracket pair member
    rw [Bool.or_eq_true, not_or] at other
    simpa using other.1
  rw [nest?, notOpening, noBracket]
  rfl

theorem nest?_of_pair {opening closing : Char} (pair : (opening, closing) ∈ bracketPairs)
    (expected : List Char) :
    nest? expected opening = some (closing :: expected) ∧
      nest? (closing :: expected) closing = some expected := by
  simp only [bracketPairs, List.mem_cons, List.not_mem_nil, or_false, Prod.mk.injEq] at pair
  rcases pair with ⟨rfl, rfl⟩ | ⟨rfl, rfl⟩ | ⟨rfl, rfl⟩ <;> exact ⟨rfl, rfl⟩

theorem unclosed?_cons (expected : List Char) (c : Char) (rest : Text) :
    unclosed? expected (c :: rest) = (nest? expected c).bind fun next => rest.unclosed? next :=
  List.foldlM_cons

theorem unclosed?_append (expected : List Char) (t u : Text) :
    unclosed? expected (t ++ u) = (t.unclosed? expected).bind fun next => u.unclosed? next :=
  List.foldlM_append

theorem unclosed?_of_balanced {t : Text} (balanced : Balanced t) (expected : List Char) :
    t.unclosed? expected = some expected := by
  induction balanced generalizing expected with
  | empty => rfl
  | plain noBracket _ ih =>
      rw [unclosed?_cons, nest?_of_noBracket noBracket]
      exact ih expected
  | enclosed pair _ _ inside behind =>
      obtain ⟨opens, closes⟩ := nest?_of_pair pair expected
      rw [unclosed?_cons, opens, Option.bind_some, unclosed?_append, inside, Option.bind_some,
        unclosed?_cons, closes]
      exact behind expected

/-- What closes the brackets of a text that began before it: balanced texts, with the expected
brackets between them. -/
inductive Closes : List Char → Text → Prop where
  | all {t : Text} (balanced : Balanced t) : Closes [] t
  | next {closing : Char} {expected : List Char} {inner rest : Text} (inside : Balanced inner)
      (behind : Closes expected rest) : Closes (closing :: expected) (inner ++ closing :: rest)

theorem Closes.prepend {expected : List Char} {t u : Text} (first : Balanced t)
    (closes : Closes expected u) : Closes expected (t ++ u) := by
  cases closes with
  | all balanced => exact .all (first.append balanced)
  | next inside behind =>
      rw [← List.append_assoc]
      exact .next (first.append inside) behind

theorem Closes.enclosed {opening closing : Char} {expected : List Char} {t : Text}
    (pair : (opening, closing) ∈ bracketPairs) (closes : Closes (closing :: expected) t) :
    Closes expected (opening :: t) := by
  cases closes with
  | @next _ _ inner rest inside behind =>
      have whole : Balanced (opening :: (inner ++ [closing])) := .enclosed pair inside .empty
      have both := behind.prepend whole
      rwa [List.cons_append, List.append_assoc] at both

/-- What a character does: it opens a pair, it is the expected bracket, or it is none at all. -/
theorem nest?_cases {c : Char} {expected next : List Char} (found : nest? expected c = some next) :
    (∃ closing, (c, closing) ∈ bracketPairs ∧ next = closing :: expected) ∨
      expected = c :: next ∨ isBracket c = false ∧ next = expected := by
  unfold nest? at found
  split at found
  · next closing opens =>
      obtain ⟨before, after, pairs, _⟩ := List.lookup_eq_some_iff.mp opens
      have pair : (c, closing) ∈ bracketPairs := by
        rw [pairs]
        exact List.mem_append_right before List.mem_cons_self
      exact .inl ⟨closing, pair, (Option.some.inj found).symm⟩
  · cases bracket : isBracket c with
    | true =>
        rw [bracket, if_pos rfl, Option.ite_none_right_eq_some, List.head?_eq_some_iff] at found
        obtain ⟨⟨outer, rfl⟩, same⟩ := found
        exact .inr (.inl (congrArg (c :: ·) (Option.some.inj same)))
    | false =>
        rw [bracket, if_neg Bool.false_ne_true] at found
        exact .inr (.inr ⟨rfl, (Option.some.inj found).symm⟩)

theorem closes_of_unclosed? {expected : List Char} {t : Text}
    (closed : t.unclosed? expected = some []) : Closes expected t := by
  induction t generalizing expected with
  | nil =>
      cases closed
      exact .all .empty
  | cons c rest ih =>
      rw [unclosed?_cons, Option.bind_eq_some_iff] at closed
      obtain ⟨next, step, closed⟩ := closed
      -- What is expected behind the first character tells how the rest of the text is split.
      rcases nest?_cases step with ⟨closing, pair, rfl⟩ | rfl | ⟨noBracket, rfl⟩
      · exact (ih closed).enclosed pair
      · exact .next .empty (ih closed)
      · exact Closes.prepend (.plain noBracket .empty) (ih closed)

theorem balanced_iff_unclosed? (t : Text) : Balanced t ↔ t.unclosed? [] = some [] := by
  constructor
  · exact fun balanced => unclosed?_of_balanced balanced []
  · intro closed
    cases closes_of_unclosed? closed with
    | all balanced => exact balanced

instance (t : Text) : Decidable (Balanced t) :=
  decidable_of_iff _ (balanced_iff_unclosed? t).symm

example : Balanced "Map<string, (\x7b\x7d)>" ∧ ¬ Balanced "(call: Call) => void" := by decide

/-- The brackets of a text, without what stands between them. -/
def brackets (t : Text) : Text :=
  t.filter isBracket

theorem brackets_append (t u : Text) : brackets (t ++ u) = t.brackets ++ u.brackets :=
  List.filter_append ..

theorem brackets_flatMap {α : Type} (f : α → Text) (xs : List α) :
    brackets (xs.flatMap f) = xs.flatMap fun x => (f x).brackets :=
  List.filter_flatMap

theorem brackets_eq_nil {t : Text} (none : ∀ c ∈ t, isBracket c = false) : t.brackets = [] := by
  simpa [brackets] using none

/-- Whether a text is balanced depends on its brackets only. -/
theorem balanced_brackets (t : Text) : Balanced t.brackets ↔ Balanced t := by
  have skips : (fun (expected : List Char) c =>
      if isBracket c then nest? expected c else pure expected) = nest? := by
    funext expected c
    cases bracket : isBracket c with
    | true => rfl
    | false => exact (nest?_of_noBracket bracket expected).symm
  rw [balanced_iff_unclosed?, balanced_iff_unclosed?, unclosed?, brackets, List.foldlM_filter,
    skips, unclosed?]

theorem Balanced.brackets {t : Text} (balanced : Balanced t) : Balanced t.brackets :=
  (balanced_brackets t).mpr balanced

/-- Escapes are no brackets. -/
theorem brackets_escaped (t : Text) : brackets (t.flatMap escapeChar) = t.brackets := by
  have escaped (c : Char) : (escapeChar c).brackets = brackets [c] := by
    unfold escapeChar
    split <;> first | decide | rfl
  rw [brackets_flatMap]
  simp only [escaped]
  rw [← brackets_flatMap, List.flatMap_singleton']

theorem Balanced.singleQuoted {t : Text} (balanced : Balanced t) : Balanced t.singleQuoted := by
  have inside : Balanced (t.flatMap escapeChar) := by
    rw [← balanced_brackets, brackets_escaped]
    exact balanced.brackets
  have quote : Balanced "'" := by decide
  exact (quote.append inside).append quote

/-- The ends of lines have no brackets. -/
theorem brackets_lines (t : Text) : t.lines.flatMap brackets = t.brackets := by
  have cons (c : Char) (rest : Text) : brackets (c :: rest) = brackets [c] ++ rest.brackets :=
    brackets_append [c] rest
  fun_induction lines t with
  | case1 => rfl
  | case2 rest ih => exact ih
  | case3 rest ih => exact ih
  | case4 c rest _ _ none ih =>
      rw [cons c rest, ← ih, none, List.flatMap_singleton, List.flatMap_nil, List.append_nil]
  | case5 c rest _ _ first more found ih =>
      rw [cons c rest, ← ih, found, List.flatMap_cons, List.flatMap_cons, cons c first,
        List.append_assoc]

end Text
end GrpcBindings

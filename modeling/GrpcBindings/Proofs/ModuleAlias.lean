import Mathlib.Data.List.Basic
import GrpcBindings.ObjectPath
import GrpcBindings.ImportBlock
import GrpcBindings.Proofs.Text.Hexadecimal

/-!
Module aliases read back. The spelling of a character tells where it ends, so an alias stands for a
single stem. An alias is an identifier, whatever the path, and not the alias of the call library. No
dot is in it, so an object path shows which alias it begins with.
-/

namespace GrpcBindings
namespace Text

/-- What an identifier may begin with. -/
def beginsIdentifier (c : Char) : Bool :=
  c.isAlpha || c = '_' || c = '$'

/-- Whether a text is an identifier of ASCII characters. A digit is not the first of them. -/
def isIdentifier : Text → Bool
  | [] => false
  | first :: rest => beginsIdentifier first && rest.all fun c => beginsIdentifier c || c.isDigit

end Text

namespace ModuleAlias

open Text

/-- The character that a spelling after a dollar sign stands for, and what follows. -/
def unmark? : Text → Option (Char × Text)
  | 's' :: rest => some ('/', rest)
  | 'd' :: rest => some ('.', rest)
  | 'h' :: rest => some ('-', rest)
  | '$' :: rest => some ('$', rest)
  | 'n' :: digit :: rest => some (digit, rest)
  | 'u' :: rest => some (.ofNat (hexadecimalValue (rest.take 4)), rest.drop 4)
  | 'U' :: rest => some (.ofNat (hexadecimalValue (rest.take 8)), rest.drop 8)
  | _ => none

/-- The first character that a text spells, and what follows its spelling. -/
def unspell? : Text → Option (Char × Text)
  | [] => none
  | c :: rest => if c = '$' then unmark? rest else some (c, rest)

theorem unmark?_shorter {t rest : Text} {c : Char} (found : unmark? t = some (c, rest)) :
    rest.length ≤ t.length := by
  unfold unmark? at found
  split at found
  all_goals cases found
  all_goals simp only [List.length_cons, List.length_drop]
  all_goals omega

theorem unspell?_shorter {t rest : Text} {c : Char} (found : unspell? t = some (c, rest)) :
    rest.length < t.length := by
  cases t with
  | nil => cases found
  | cons first others =>
      rw [unspell?] at found
      split at found
      · exact Nat.lt_succ_of_le (unmark?_shorter found)
      · cases found
        exact Nat.lt_succ_self _

/-- What a text spells, up to where it spells nothing. -/
def decode (t : Text) : Text :=
  match _ : unspell? t with
  | none => []
  | some (c, rest) => c :: decode rest
termination_by t.length
decreasing_by exact unspell?_shorter (by assumption)

theorem decode_of_unspell? {t rest : Text} {c : Char} (found : unspell? t = some (c, rest)) :
    decode t = c :: decode rest := by
  rw [decode]
  split
  · rename_i missing
    rw [found] at missing
    cases missing
  · rename_i same
    rw [found] at same
    cases same
    rfl

theorem decode_nil : decode [] = [] := by
  rw [decode]
  rfl

theorem take_append_padded {width n : Nat} (fits : (hexadecimal n).length ≤ width)
    (rest : Text) :
    (hexadecimalPadded width n ++ rest).take width = hexadecimalPadded width n ∧
      (hexadecimalPadded width n ++ rest).drop width = rest := by
  have length := length_hexadecimalPadded fits
  exact ⟨List.take_left' length, List.drop_left' length⟩

theorem unspell?_spell (c : Char) (rest : Text) : unspell? (spell c ++ rest) = some (c, rest) := by
  unfold spell
  split
  · rename_i slash
    rw [slash]
    rfl
  split
  · rename_i dot
    rw [dot]
    rfl
  split
  · rename_i hyphen
    rw [hyphen]
    rfl
  split
  · rename_i dollar
    rw [dollar]
    rfl
  rename_i noDollar
  split
  · exact if_neg noDollar
  split
  · rename_i short
    have fits : (hexadecimal c.toNat).length ≤ 4 :=
      (Nat.length_toDigits_le_iff (by decide) (by decide)).mpr (by omega)
    obtain ⟨taken, dropped⟩ := take_append_padded fits rest
    change some (Char.ofNat (hexadecimalValue ((hexadecimalPadded 4 c.toNat ++ rest).take 4)),
      (hexadecimalPadded 4 c.toNat ++ rest).drop 4) = some (c, rest)
    rw [taken, dropped, hexadecimalValue_padded, Char.ofNat_toNat]
  · have fits : (hexadecimal c.toNat).length ≤ 8 :=
      (Nat.length_toDigits_le_iff (by decide) (by decide)).mpr c.val.toNat_lt
    obtain ⟨taken, dropped⟩ := take_append_padded fits rest
    change some (Char.ofNat (hexadecimalValue ((hexadecimalPadded 8 c.toNat ++ rest).take 8)),
      (hexadecimalPadded 8 c.toNat ++ rest).drop 8) = some (c, rest)
    rw [taken, dropped, hexadecimalValue_padded, Char.ofNat_toNat]

theorem decode_flatMap_spell (t rest : Text) :
    decode (t.flatMap spell ++ rest) = t ++ decode rest := by
  induction t with
  | nil => rfl
  | cons c t ih =>
      rw [List.flatMap_cons, List.append_assoc, decode_of_unspell? (unspell?_spell c _), ih]
      rfl

theorem decode_ofStem (stem rest : Text) : decode (ofStem stem ++ rest) = stem ++ decode rest := by
  cases stem with
  | nil => rfl
  | cons c others =>
      have first : unspell? ((if c.isDigit then "$n" ++ [c] else spell c) ++
          (others.flatMap spell ++ rest)) = some (c, others.flatMap spell ++ rest) := by
        split
        · rfl
        · exact unspell?_spell c _
      rw [ofStem, List.append_assoc, decode_of_unspell? first, decode_flatMap_spell]
      rfl

/-- What aliases consist of. -/
def isIdentifierCharacter (c : Char) : Bool :=
  isPlain c || c = '$'

theorem isIdentifierCharacter_eq (c : Char) :
    isIdentifierCharacter c = (beginsIdentifier c || c.isDigit) := by
  rw [isIdentifierCharacter, isPlain, Char.isAlphanum, beginsIdentifier]
  ac_rfl

theorem isIdentifierCharacter_of_alphanum {c : Char} (alphanum : c.isAlphanum = true) :
    isIdentifierCharacter c = true := by
  simp [isIdentifierCharacter, isPlain, alphanum]

theorem all_padded (width n : Nat) :
    (hexadecimalPadded width n).all isIdentifierCharacter = true := by
  rw [List.all_eq_true]
  intro c member
  exact isIdentifierCharacter_of_alphanum (isAlphanum_of_mem_padded member)

theorem all_spell (c : Char) : (spell c).all isIdentifierCharacter = true := by
  unfold spell
  split
  · rfl
  split
  · rfl
  split
  · rfl
  split
  · rfl
  split
  · rename_i plain
    simp [isIdentifierCharacter, plain]
  split
  · rw [List.all_append, all_padded]
    rfl
  · rw [List.all_append, all_padded]
    rfl

/-- A character stands for itself or has a spelling behind a dollar sign. -/
theorem spell_cases (c : Char) :
    (isPlain c = true ∧ spell c = [c]) ∨ ∃ more, spell c = '$' :: more := by
  unfold spell
  split
  · exact .inr ⟨_, rfl⟩
  split
  · exact .inr ⟨_, rfl⟩
  split
  · exact .inr ⟨_, rfl⟩
  split
  · exact .inr ⟨_, rfl⟩
  split
  · rename_i plain
    exact .inl ⟨plain, rfl⟩
  split
  · exact .inr ⟨_, rfl⟩
  · exact .inr ⟨_, rfl⟩

/-- Since a digit that would come first is spelled, no stem makes an alias begin with one. -/
theorem begins_ofStem (stem : Text) :
    stem = [] ∨ ∃ first more, ofStem stem = first :: more ∧ beginsIdentifier first = true := by
  cases stem with
  | nil => exact .inl rfl
  | cons c rest =>
      right
      rw [ofStem]
      split
      · exact ⟨'$', _, rfl, rfl⟩
      · rename_i notDigit
        rcases spell_cases c with ⟨plain, itself⟩ | ⟨more, spelled⟩
        · rw [itself]
          refine ⟨c, _, rfl, ?_⟩
          simp only [isPlain, Char.isAlphanum, notDigit, Bool.or_false] at plain
          rw [beginsIdentifier, plain, Bool.true_or]
        · rw [spelled]
          exact ⟨'$', _, rfl, rfl⟩

theorem all_ofStem (stem : Text) : (ofStem stem).all isIdentifierCharacter = true := by
  cases stem with
  | nil => rfl
  | cons c rest =>
      rw [ofStem, List.all_append, List.all_flatMap, Bool.and_eq_true]
      constructor
      · split
        · rename_i digit
          have alphanum : c.isAlphanum = true := by simp [Char.isAlphanum, digit]
          rw [List.all_append, List.all_cons, isIdentifierCharacter_of_alphanum alphanum]
          rfl
        · exact all_spell c
      · rw [List.all_eq_true]
        exact fun d _ => all_spell d

end ModuleAlias

/-- The stem that an alias was made of. A name that does not end like an alias has none. -/
def aliasedStem? (name : Text) : Option Text :=
  (List.isSuffixOf? ("_pb" : Text) name).map ModuleAlias.decode

theorem aliasedStem?_moduleAlias (path : Text) :
    aliasedStem? (moduleAlias path) = some (SchemaPath.stem path) := by
  have spelling : List.isSuffixOf? ("_pb" : Text) (moduleAlias path) =
      some (ModuleAlias.ofStem (SchemaPath.stem path)) :=
    List.isSuffixOf?_eq_some_iff_append_eq.mpr rfl
  have decoded := ModuleAlias.decode_ofStem (SchemaPath.stem path) []
  rw [List.append_nil] at decoded
  rw [aliasedStem?, spelling, Option.map_some, decoded, ModuleAlias.decode_nil, List.append_nil]

theorem moduleAlias_eq_iff {first second : Text} :
    moduleAlias first = moduleAlias second ↔ SchemaPath.stem first = SchemaPath.stem second := by
  constructor
  · intro same
    have decoded := congrArg aliasedStem? same
    rwa [aliasedStem?_moduleAlias, aliasedStem?_moduleAlias, Option.some.injEq] at decoded
  · intro same
    rw [moduleAlias, moduleAlias, same]

/-- Aliases are read back by one function, whatever the paths. So two paths share an alias exactly
if they share a stem. -/
theorem moduleAlias_decodable :
    (∀ path, aliasedStem? (moduleAlias path) = some (SchemaPath.stem path)) ∧
      ∀ first second,
        moduleAlias first = moduleAlias second ↔ SchemaPath.stem first = SchemaPath.stem second :=
  ⟨aliasedStem?_moduleAlias, fun _ _ => moduleAlias_eq_iff⟩

theorem all_moduleAlias (path : Text) :
    (moduleAlias path).all ModuleAlias.isIdentifierCharacter = true := by
  rw [moduleAlias, List.all_append, ModuleAlias.all_ofStem]
  rfl

theorem moduleAlias_ne_runtimeAlias (path : Text) : moduleAlias path ≠ runtimeAlias := by
  intro same
  have last := congrArg List.getLast? same
  rw [moduleAlias, List.getLast?_append] at last
  cases last

theorem isIdentifier_moduleAlias (path : Text) : (moduleAlias path).isIdentifier = true := by
  have begins : ∃ first more, moduleAlias path = first :: more ∧
      Text.beginsIdentifier first = true := by
    rcases ModuleAlias.begins_ofStem (SchemaPath.stem path) with empty | ⟨first, more, same, begins⟩
    · exact ⟨'_', ['p', 'b'], by rw [moduleAlias, empty]; rfl, rfl⟩
    · exact ⟨first, more ++ "_pb", by rw [moduleAlias, same]; rfl, begins⟩
  obtain ⟨first, more, same, begins⟩ := begins
  have all := all_moduleAlias path
  rw [same, List.all_cons, Bool.and_eq_true] at all
  rw [same, Text.isIdentifier, begins, Bool.true_and, List.all_eq_true]
  intro c member
  have character := List.all_eq_true.mp all.2 c member
  rwa [ModuleAlias.isIdentifierCharacter_eq] at character

/-- What an object path has before its first dot. -/
def qualifier (objectPath : Text) : Text :=
  objectPath.takeWhile (· ≠ '.')

theorem qualifier_of_alias (path name : Text) :
    qualifier (moduleAlias path ++ "." ++ name) = moduleAlias path := by
  have noDot : ∀ c ∈ moduleAlias path, decide (c ≠ '.') = true := by
    intro c member
    rw [decide_eq_true_iff]
    rintro rfl
    exact Bool.false_ne_true (List.all_eq_true.mp (all_moduleAlias path) '.' member)
  rw [qualifier, List.append_assoc, List.takeWhile_append_of_pos noDot]
  exact List.append_nil _

/-- Whatever the path, its alias is an identifier, so that neither a dot nor a quote is in it. No
file's messages are imported under the alias of the call library. -/
theorem moduleAlias_names_module (path : Text) :
    (moduleAlias path).isIdentifier = true ∧
      (∀ mark ∈ ['.', '\'', '"'], mark ∉ moduleAlias path) ∧
      moduleAlias path ≠ runtimeAlias := by
  refine ⟨isIdentifier_moduleAlias path, ?_, moduleAlias_ne_runtimeAlias path⟩
  intro mark isMark member
  have character := List.all_eq_true.mp (all_moduleAlias path) mark member
  simp only [List.mem_cons, List.not_mem_nil, or_false] at isMark
  rcases isMark with rfl | rfl | rfl <;> cases character

example : moduleAlias "1/é-😀.proto" = ("$n1$s$u00e9$h$U0001f600_pb" : Text) := by decide

end GrpcBindings

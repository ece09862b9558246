import GrpcBindings.Text

/-!
Hexadecimal numbers read back. Zeros in front change neither the number nor that there are as many
digits as were asked for.
-/

namespace GrpcBindings
namespace Text

/-- What a digit stands for, written as numbers are. -/
def hexadecimalDigit (c : Char) : Nat :=
  if c.isDigit then c.toNat - '0'.toNat else c.toNat - 'a'.toNat + 10

def hexadecimalValue (digits : Text) : Nat :=
  digits.foldl (fun value c => 16 * value + hexadecimalDigit c) 0

theorem hexadecimalDigit_digitChar : ∀ d < 16, hexadecimalDigit (Nat.digitChar d) = d := by
  decide

theorem isAlphanum_digitChar : ∀ d < 16, (Nat.digitChar d).isAlphanum = true := by
  decide

theorem hexadecimalValue_concat (digits : Text) (c : Char) :
    hexadecimalValue (digits ++ [c]) = 16 * hexadecimalValue digits + hexadecimalDigit c := by
  rw [hexadecimalValue, List.foldl_append]
  rfl

theorem hexadecimalValue_hexadecimal (n : Nat) : hexadecimalValue (hexadecimal n) = n := by
  induction n using Nat.strongRecOn with
  | ind n ih =>
      rw [hexadecimal, Nat.toDigits_eq_if (by decide)]
      split
      · rename_i small
        change 16 * 0 + hexadecimalDigit (Nat.digitChar n) = n
        rw [hexadecimalDigit_digitChar n small]
        omega
      · have front : hexadecimalValue (Nat.toDigits 16 (n / 16)) = n / 16 := ih (n / 16) (by omega)
        rw [hexadecimalValue_concat, front,
          hexadecimalDigit_digitChar (n % 16) (Nat.mod_lt n (by decide))]
        omega

theorem isAlphanum_of_mem_hexadecimal (n : Nat) :
    ∀ c ∈ hexadecimal n, c.isAlphanum = true := by
  induction n using Nat.strongRecOn with
  | ind n ih =>
      rw [hexadecimal, Nat.toDigits_eq_if (by decide)]
      split
      · rename_i small
        intro c member
        rw [List.mem_singleton.mp member]
        exact isAlphanum_digitChar n small
      · intro c member
        rcases List.mem_append.mp member with front | last
        · exact ih (n / 16) (by omega) c front
        · rw [List.mem_singleton.mp last]
          exact isAlphanum_digitChar (n % 16) (Nat.mod_lt n (by decide))

/-- Zeros in front do not count. -/
theorem hexadecimalValue_zeros (zeros : Nat) (digits : Text) :
    hexadecimalValue (List.replicate zeros '0' ++ digits) = hexadecimalValue digits := by
  induction zeros with
  | zero => rfl
  | succ zeros ih => exact ih

theorem hexadecimalValue_padded (width n : Nat) :
    hexadecimalValue (hexadecimalPadded width n) = n := by
  rw [hexadecimalPadded, List.leftpad, hexadecimalValue_zeros, hexadecimalValue_hexadecimal]

theorem length_hexadecimalPadded {width n : Nat} (fits : (hexadecimal n).length ≤ width) :
    (hexadecimalPadded width n).length = width := by
  rw [hexadecimalPadded, List.length_leftpad]
  exact Nat.max_eq_left fits

theorem isAlphanum_of_mem_padded {width n : Nat} {c : Char}
    (member : c ∈ hexadecimalPadded width n) : c.isAlphanum = true := by
  rcases List.mem_append.mp member with zero | digit
  · rw [List.eq_of_mem_replicate zero]
    rfl
  · exact isAlphanum_of_mem_hexadecimal n c digit

end Text
end GrpcBindings

import Mathlib.Tactic.SplitIfs
import GrpcBindings.Text.Utf8

/-!
The order of octets. Texts are compared character by character, and the octets that encode them are
in the same order, since a character before another one has octets before those of the other,
whatever follows.
-/

namespace GrpcBindings
namespace Text

theorem octet_cons_lt_iff {m n : Nat} (small : m < 256) (otherSmall : n < 256) (t u : Octets) :
    UInt8.ofNat m :: t < UInt8.ofNat n :: u ↔ m < n ∨ m = n ∧ t < u := by
  have value {k : Nat} (small : k < 256) : (UInt8.ofNat k).toNat = k :=
    UInt8.toNat_ofNat_of_lt' small
  rw [List.cons_lt_cons_iff, UInt8.lt_iff_toNat_lt, ← UInt8.toNat_inj, value small,
    value otherSmall]

theorem utf8EncodeChar_append_lt {c d : Char} (before : c < d) (t u : Octets) :
    String.utf8EncodeChar c ++ t < String.utf8EncodeChar d ++ u := by
  have less : c.val.toNat < d.val.toNat := before
  have bound : d.val.toNat < 0x110000 := by
    rcases d.valid with low | ⟨_, high⟩
    · exact Nat.lt_trans low (by decide)
    · exact high
  -- The octets after the first have six bits each.
  have quotients (k : Nat) : k / 4096 = k / 64 / 64 ∧ k / 262144 = k / 64 / 64 / 64 := by
    simp only [Nat.div_div_eq_div_mul, and_self]
  simp only [String.utf8EncodeChar, quotients]
  generalize c.val.toNat = m at less
  generalize d.val.toNat = n at less bound
  -- Where the numbers of octets differ, the first octets do. Where they agree, the first octet that
  -- differs belongs to the first six bits that differ.
  split_ifs
  all_goals simp (disch := omega) only [List.cons_append, octet_cons_lt_iff]
  all_goals omega

theorem utf8_lt_utf8 {t u : Text} (before : t < u) : t.utf8 < u.utf8 := by
  induction before with
  | @nil d rest =>
      have filled : utf8 (d :: rest) ≠ [] :=
        List.append_ne_nil_of_left_ne_nil String.utf8EncodeChar_ne_nil _
      obtain ⟨octet, more, same⟩ := List.exists_cons_of_ne_nil filled
      rw [same]
      exact List.nil_lt_cons octet more
  | rel less => exact utf8EncodeChar_append_lt less _ _
  | cons _ ih => exact List.append_left_lt ih

end Text
end GrpcBindings

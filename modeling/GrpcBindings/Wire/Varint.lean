import GrpcBindings.Wire

/-!
Varints: seven bits to an octet, the lowest first, and a high bit on every octet but the last. A
varint has at most ten octets and is below 2^64.
-/

namespace GrpcBindings
namespace Wire

/-- Reads a varint of which at most `most` octets are left. Gives its value and the number of octets
it took. The tenth octet has a single bit to give. -/
def varint? : (most : Nat) → Octets → Option (Nat × Nat)
  | 0, _ | _ + 1, [] => none
  | most + 1, octet :: rest =>
      if octet.toNat < 128 then
        if most = 0 ∧ 2 ≤ octet.toNat then none else some (octet.toNat, 1)
      else
        match varint? most rest with
        | some (high, count) => some (octet.toNat % 128 + 128 * high, count + 1)
        | none => none

theorem varint?_count {most n count : Nat} {octets : Octets}
    (h : varint? most octets = some (n, count)) : 0 < count ∧ count ≤ octets.length := by
  fun_induction varint? most octets generalizing n count with
  | case1 | case2 | case3 => simp at h
  | case4 most octet tail _ _ =>
      simp only [Option.some.injEq, Prod.mk.injEq] at h
      simp only [List.length_cons]
      omega
  | case5 most octet tail _ high taken hread ih =>
      simp only [Option.some.injEq, Prod.mk.injEq] at h
      have := ih hread
      simp only [List.length_cons]
      omega
  | case6 => simp at h

def readVarint (input : Input) : Except Fault (Read Nat input) :=
  match h : varint? 10 input.octets with
  | some (n, count) =>
      .ok ⟨n, input.drop count, by
        have := varint?_count h
        have := input.size_eq
        simp only [Input.drop]
        omega⟩
  | none => .error .invalidVarint

/-- The shortest varint of a number. -/
def varint (n : Nat) : Octets :=
  if n < 128 then [UInt8.ofNat n] else UInt8.ofNat (n % 128 + 128) :: varint (n / 128)

end Wire
end GrpcBindings

import Mathlib.Algebra.Group.Nat.Defs
import SqlCsvServer.Foundation.Bytes

/-!
# Printed numbers

What `%d` prints of a number that is not negative: digits, and no superfluous
zero in front.
-/

namespace SqlCsvServer
namespace Foundation

theorem digitChar_isDigit : forall n, n < 10 ->
    isDigit (Nat.digitChar n).toNat.toUInt8 = true := by
  decide

theorem digitChar_ne_zero : forall n, n < 10 -> n ≠ 0 ->
    (Nat.digitChar n).toNat.toUInt8 ≠ 0x30 := by
  decide

theorem decimalNat_pos (n : Nat) (h : 0 < n) :
    exists b rest, decimalNat n = b :: rest ∧ isDigit b = true ∧ b ≠ 0x30 ∧
      forall d, d ∈ rest -> isDigit d = true := by
  induction n using Nat.strongRecOn with
  | _ n ih =>
      unfold decimalNat
      rcases Nat.lt_or_ge n 10 with hsmall | hlarge
      · rw [Nat.toDigits_of_lt_base hsmall]
        exact ⟨_, [], rfl, digitChar_isDigit n hsmall,
          digitChar_ne_zero n hsmall (Nat.ne_of_gt h), by simp⟩
      · rw [Nat.toDigits_of_base_le (by decide) hlarge, List.map_append]
        rcases ih (n / 10) (Nat.div_lt_self h (by decide))
          (Nat.div_pos hlarge (by decide)) with ⟨b, rest, htext, hdigit, hne, hrest⟩
        unfold decimalNat at htext
        rw [htext]
        refine ⟨b, _, rfl, hdigit, hne, ?_⟩
        intro d hd
        rcases List.mem_append.mp hd with hd | hd
        · exact hrest d hd
        · rw [List.map_singleton, List.mem_singleton] at hd
          rw [hd]
          exact digitChar_isDigit _ (Nat.mod_lt n (by decide))

theorem decimalNat_zero : decimalNat 0 = [0x30] :=
  rfl

theorem decimalNat_digits (n : Nat) :
    forall d, d ∈ decimalNat n -> isDigit d = true := by
  intro d hd
  rcases Nat.eq_zero_or_pos n with rfl | hpos
  · rw [decimalNat_zero] at hd
    rw [List.mem_singleton.mp hd]
    decide
  · rcases decimalNat_pos n hpos with ⟨b, rest, htext, hdigit, _, hrest⟩
    rw [htext] at hd
    rcases List.mem_cons.mp hd with rfl | hd
    · exact hdigit
    · exact hrest d hd

theorem decimalNat_ne_nil (n : Nat) : decimalNat n ≠ [] := by
  rcases Nat.eq_zero_or_pos n with rfl | hpos
  · rw [decimalNat_zero]
    exact List.cons_ne_nil _ _
  · rcases decimalNat_pos n hpos with ⟨b, rest, htext, _⟩
    rw [htext]
    exact List.cons_ne_nil _ _

theorem decimalNat_length {n digits : Nat} (hpos : 0 < digits) (h : n < 10 ^ digits) :
    (decimalNat n).length ≤ digits := by
  unfold decimalNat
  rw [List.length_map]
  exact (Nat.length_toDigits_le_iff (by decide) hpos).mpr h

end Foundation
end SqlCsvServer

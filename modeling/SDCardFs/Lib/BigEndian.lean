import Mathlib.Algebra.Group.Nat.Defs

set_option autoImplicit false

namespace SDCardFs.Lib

-- The number whose bytes these are, the most significant first.
def bigEndian : List UInt8 → Nat
  | [] => 0
  | byte :: rest => 2 ^ (8 * rest.length) * byte.toNat + bigEndian rest

theorem big_endian_lt (bytes : List UInt8) : bigEndian bytes < 2 ^ (8 * bytes.length) := by
  induction bytes with
  | nil => exact Nat.one_pos
  | cons byte rest ih =>
      have small : byte.toNat + 1 ≤ 2 ^ 8 := byte.toNat_lt
      have room : 2 ^ (8 * rest.length) * (byte.toNat + 1) ≤ 2 ^ (8 * rest.length) * 2 ^ 8 := Nat.mul_le_mul_left _ small
      rw [Nat.mul_add, Nat.mul_one] at room
      rw [bigEndian, List.length_cons, Nat.mul_add, Nat.mul_one, Nat.pow_add]
      omega

theorem big_endian_bit (bytes : List UInt8) (position : Nat) (inside : position < 8 * bytes.length) :
    (bigEndian bytes).testBit position =
      (bytes.getD (bytes.length - 1 - position / 8) 0).toNat.testBit (position % 8) := by
  induction bytes with
  | nil => exact absurd inside (Nat.not_lt_zero _)
  | cons byte rest ih =>
      rw [bigEndian, Nat.testBit_two_pow_mul_add _ (big_endian_lt rest), List.length_cons]
      rw [List.length_cons] at inside
      by_cases low : position < 8 * rest.length
      · have later : rest.length + 1 - 1 - position / 8 = rest.length - 1 - position / 8 + 1 := by omega
        rw [if_pos low, ih low, later, List.getD_cons_succ]
      · have first : rest.length + 1 - 1 - position / 8 = 0 := by omega
        have offset : position - 8 * rest.length = position % 8 := by omega
        rw [if_neg low, offset, first, List.getD_cons_zero]

-- A field of w bits from bit l up is the number shifted down and cut off: what
-- has these bits and no others is that number.
theorem field_of_bits (field number low width : Nat)
    (bits : ∀ i, field.testBit i = (decide (i < width) && number.testBit (low + i))) :
    field = number / 2 ^ low % 2 ^ width := by
  refine Nat.eq_of_testBit_eq fun i => ?_
  rw [bits, Nat.testBit_mod_two_pow, Nat.testBit_div_two_pow, Nat.add_comm]

theorem and_shifted (mask number low width : Nat) (small : mask < 2 ^ width) :
    mask * 2 ^ low &&& number = (mask &&& number / 2 ^ low % 2 ^ width) * 2 ^ low := by
  refine Nat.eq_of_testBit_eq fun i => ?_
  rw [Nat.testBit_and, Nat.testBit_mul_two_pow, Nat.testBit_mul_two_pow, Nat.testBit_and, Nat.testBit_mod_two_pow, Nat.testBit_div_two_pow]
  by_cases below : low ≤ i
  · rw [Nat.sub_add_cancel below]
    by_cases inside : i - low < width
    · simp [below, inside]
    · have clear : mask.testBit (i - low) = false :=
        Nat.testBit_lt_two_pow (Nat.lt_of_lt_of_le small (Nat.pow_le_pow_right Nat.two_pos (Nat.not_lt.mp inside)))
      simp [clear]
  · simp [below]

theorem and_field (number low width : Nat) : number &&& (2 ^ width - 1) * 2 ^ low = number / 2 ^ low % 2 ^ width * 2 ^ low := by
  have small : 2 ^ width - 1 < 2 ^ width := Nat.sub_lt (Nat.two_pow_pos _) Nat.one_pos
  rw [Nat.and_comm, and_shifted _ _ _ _ small, Nat.and_comm, Nat.and_two_pow_sub_one_eq_mod, Nat.mod_mod]

end SDCardFs.Lib

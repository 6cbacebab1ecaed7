import Mathlib.Data.Nat.Bitwise

set_option autoImplicit false

namespace SDCardFs.Lib

-- Bits packed into 32-bit words, found by dividing the index by the word size.
abbrev Bitmap : Type := Nat → UInt32

namespace Bitmap

def bit (words : Bitmap) (index : UInt32) : Bool := words (index / 32).toNat &&& (1 <<< (index % 32)) ≠ 0

def setBit (words : Bitmap) (index : UInt32) : Bitmap := fun word =>
  if word = (index / 32).toNat then words word ||| (1 <<< (index % 32)) else words word

def clear (words : Bitmap) (count : Nat) : Bitmap := fun word => if word < count then 0 else words word

theorem mask_toNat (index : UInt32) : ((1 : UInt32) <<< (index % 32)).toNat = 2 ^ (index.toNat % 32) := by
  have small : index.toNat % 32 < 32 := Nat.mod_lt _ (by decide)
  have power : 2 ^ (index.toNat % 32) < 2 ^ 32 := Nat.pow_lt_pow_right (by decide) small
  simp only [UInt32.toNat_shiftLeft, UInt32.toNat_mod, UInt32.reduceToNat, Nat.mod_mod, Nat.one_shiftLeft]
  exact Nat.mod_eq_of_lt power

theorem bit_testBit (words : Bitmap) (index : UInt32) :
    words.bit index = (words (index / 32).toNat).toNat.testBit (index.toNat % 32) := by
  have word : words (index / 32).toNat &&& (1 <<< (index % 32)) = 0 ↔
      (words (index / 32).toNat).toNat.testBit (index.toNat % 32) = false := by
    rw [← UInt32.toNat_inj, UInt32.toNat_and, mask_toNat, Nat.and_two_pow]
    cases (words (index / 32).toNat).toNat.testBit (index.toNat % 32) with
    | false => simp
    | true => simp
  simp only [bit, ne_eq, word, Bool.not_eq_false, Bool.decide_eq_true]

theorem clear_bit (words : Bitmap) (count : Nat) (index : UInt32) (inside : (index / 32).toNat < count) :
    (words.clear count).bit index = false := by
  simp only [bit, clear, if_pos inside, UInt32.zero_and]
  rfl

theorem setBit_bit (words : Bitmap) (marked index : UInt32) :
    (words.setBit marked).bit index = true ↔ index = marked ∨ words.bit index = true := by
  rw [bit_testBit, bit_testBit]
  by_cases word : (index / 32).toNat = (marked / 32).toNat
  · have same : index = marked ↔ marked.toNat % 32 = index.toNat % 32 := by
      simp only [UInt32.toNat_div, UInt32.reduceToNat] at word
      rw [← UInt32.toNat_inj]
      omega
    rw [setBit, if_pos word, UInt32.toNat_or, mask_toNat, Nat.testBit_or, Nat.testBit_two_pow, same]
    simp [or_comm]
  · have apart : index ≠ marked := fun same => word (by rw [same])
    rw [setBit, if_neg word]
    simp [apart]

end Bitmap

end SDCardFs.Lib

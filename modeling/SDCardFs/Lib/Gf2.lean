import Mathlib.Algebra.Field.ZMod
import Mathlib.Algebra.Polynomial.Div
import Mathlib.Data.Nat.Size
import Mathlib.Tactic.Ring
import SDCardFs.Lib.BigEndian

set_option autoImplicit false

namespace SDCardFs.Lib

open Polynomial

def bitValue (bit : Bool) : ZMod 2 := if bit then 1 else 0

-- The polynomial over GF(2) whose coefficients are the bits of a number.
noncomputable def bitPoly (number : Nat) : Polynomial (ZMod 2) :=
  ∑ i ∈ Finset.range number.size, monomial i (bitValue (number.testBit i))

theorem bit_poly_coeff (number i : Nat) : (bitPoly number).coeff i = bitValue (number.testBit i) := by
  rw [bitPoly, finsetSum_coeff]
  simp only [coeff_monomial, Finset.sum_ite_eq', Finset.mem_range]
  split
  · rfl
  · rename_i above
    have small : number < 2 ^ i := Nat.size_le.mp (Nat.le_of_not_lt above)
    rw [Nat.testBit_lt_two_pow small]
    rfl

theorem bit_value_xor (left right : Bool) : bitValue (left ^^ right) = bitValue left + bitValue right := by
  cases left with
  | false => cases right with
    | false => decide
    | true => decide
  | true => cases right with
    | false => decide
    | true => decide

theorem bit_poly_xor (left right : Nat) : bitPoly (left ^^^ right) = bitPoly left + bitPoly right := by
  ext i
  rw [coeff_add, bit_poly_coeff, bit_poly_coeff, bit_poly_coeff, Nat.testBit_xor, bit_value_xor]

theorem bit_poly_shift (number count : Nat) : bitPoly (number <<< count) = bitPoly number * X ^ count := by
  ext i
  rw [bit_poly_coeff, coeff_mul_X_pow', Nat.testBit_shiftLeft]
  by_cases inside : count ≤ i
  · rw [if_pos inside, bit_poly_coeff, decide_eq_true inside, Bool.true_and]
  · rw [if_neg inside, decide_eq_false inside, Bool.false_and]
    rfl

theorem bit_poly_zero : bitPoly 0 = 0 := by
  ext i
  rw [bit_poly_coeff, Nat.zero_testBit]
  rfl

theorem bit_poly_one : bitPoly 1 = 1 := by
  ext i
  rw [bit_poly_coeff, coeff_one]
  cases i with
  | zero => rfl
  | succ i => rw [if_neg (Nat.succ_ne_zero i), Nat.testBit_lt_two_pow (Nat.one_lt_two_pow (Nat.succ_ne_zero i))]; rfl

theorem bit_poly_degree (number width : Nat) (small : number < 2 ^ width) : (bitPoly number).degree < width := by
  refine (degree_lt_iff_coeff_zero _ _).mpr fun i above => ?_
  have below : number < 2 ^ i := Nat.lt_of_lt_of_le small (Nat.pow_le_pow_right (by decide) above)
  rw [bit_poly_coeff, Nat.testBit_lt_two_pow below]
  rfl

theorem bit_poly_monic (number width : Nat) (low : 2 ^ width ≤ number) (high : number < 2 ^ (width + 1)) :
    (bitPoly number).Monic ∧ (width : WithBot ℕ) ≤ (bitPoly number).degree := by
  have leading : (bitPoly number).coeff width = 1 := by
    rw [bit_poly_coeff, Nat.testBit_of_two_pow_le_and_two_pow_add_one_gt low high]
    rfl
  refine ⟨monic_of_degree_le width ?_ leading, le_degree_of_ne_zero ?_⟩
  · exact Order.le_of_lt_succ (bit_poly_degree number (width + 1) high)
  · rw [leading]
    exact one_ne_zero

-- Long division by a divisor whose highest bit is at the given width: what is
-- left of a number that has so many bits more.
def divided (divisor width : Nat) : Nat → Nat → Nat
  | 0, number => number
  | count + 1, number => divided divisor width count (if number.testBit (width + count) then number ^^^ (divisor <<< count) else number)

theorem divided_congr (divisor width count number : Nat) :
    bitPoly divisor ∣ bitPoly number - bitPoly (divided divisor width count number) := by
  induction count generalizing number with
  | zero => rw [divided, sub_self]; exact dvd_zero _
  | succ count ih =>
      rw [divided]
      by_cases set : number.testBit (width + count) = true
      · rw [if_pos set]
        have rest := ih (number ^^^ divisor <<< count)
        rw [bit_poly_xor, bit_poly_shift] at rest
        have removed : bitPoly divisor ∣ bitPoly divisor * X ^ count := dvd_mul_right _ _
        have split := dvd_sub rest removed
        rwa [add_sub_right_comm, add_sub_cancel_right] at split
      · rw [if_neg set]
        exact ih number

theorem lt_of_clear_bit (number bits : Nat) (small : number < 2 ^ (bits + 1)) (clear : number.testBit bits = false) : number < 2 ^ bits := by
  refine Nat.lt_of_not_le fun large => ?_
  rw [Nat.testBit_of_two_pow_le_and_two_pow_add_one_gt large small] at clear
  cases clear

theorem divided_lt (divisor width count number : Nat) (low : 2 ^ width ≤ divisor) (high : divisor < 2 ^ (width + 1))
    (small : number < 2 ^ (width + count)) : divided divisor width count number < 2 ^ width := by
  induction count generalizing number with
  | zero => exact small
  | succ count ih =>
      rw [divided]
      refine ih _ (lt_of_clear_bit _ _ ?_ ?_)
      · split
        · refine Nat.xor_lt_two_pow small ?_
          rw [Nat.shiftLeft_eq, Nat.add_right_comm, Nat.pow_add]
          exact Nat.mul_lt_mul_of_pos_right high (Nat.two_pow_pos count)
        · exact small
      · split
        · rename_i set
          rw [Nat.testBit_xor, set, Nat.testBit_shiftLeft, decide_eq_true (Nat.le_add_left _ _), Nat.add_sub_cancel,
            Nat.testBit_of_two_pow_le_and_two_pow_add_one_gt low high]
          rfl
        · rename_i clear
          exact Bool.eq_false_iff.mpr clear

theorem bit_poly_big_endian (byte : UInt8) (rest : List UInt8) :
    bitPoly (bigEndian (byte :: rest)) = bitPoly byte.toNat * X ^ (8 * rest.length) + bitPoly (bigEndian rest) := by
  have joined : bigEndian (byte :: rest) = (byte.toNat <<< (8 * rest.length)) ^^^ bigEndian rest := by
    refine Nat.eq_of_testBit_eq fun i => ?_
    rw [bigEndian, Nat.testBit_two_pow_mul_add _ (big_endian_lt rest), Nat.testBit_xor, Nat.testBit_shiftLeft]
    by_cases low : i < 8 * rest.length
    · rw [if_pos low, decide_eq_false (Nat.not_le_of_lt low), Bool.false_and, Bool.false_xor]
    · have above : bigEndian rest < 2 ^ i :=
        Nat.lt_of_lt_of_le (big_endian_lt rest) (Nat.pow_le_pow_right (by decide) (Nat.le_of_not_lt low))
      rw [if_neg low, decide_eq_true (Nat.le_of_not_lt low), Bool.true_and, Nat.testBit_lt_two_pow above, Bool.xor_false]
  rw [joined, bit_poly_xor, bit_poly_shift]

-- A check of so many bits, taken a byte at a time through a table of the
-- remainders of the bytes.
def tableIndex (width check : Nat) (byte : UInt8) : Nat := (check <<< (8 - width)) ^^^ byte.toNat

def tableCheck (width : Nat) (table : Nat → Nat) (start : Nat) (message : List UInt8) : Nat :=
  message.foldl (fun check byte => table (tableIndex width check byte)) start

structure RightTable (divisor width : Nat) (table : Nat → Nat) : Prop where
  narrow : width ≤ 8
  low : 2 ^ width ≤ divisor
  high : divisor < 2 ^ (width + 1)
  entries : ∀ index, index < 256 → table index = divided divisor width 8 (index <<< width)

section

variable {divisor width : Nat} {table : Nat → Nat} (right : RightTable divisor width table)

include right

theorem table_index_lt (check : Nat) (byte : UInt8) (small : check < 2 ^ width) : tableIndex width check byte < 256 := by
  refine @Nat.xor_lt_two_pow _ _ 8 ?_ byte.toNat_lt
  have full : 2 ^ width * 2 ^ (8 - width) = 2 ^ 8 := by
    rw [← Nat.pow_add, Nat.add_sub_cancel' right.narrow]
  rw [Nat.shiftLeft_eq, ← full]
  exact Nat.mul_lt_mul_of_pos_right small (Nat.two_pow_pos _)

theorem table_entry_lt (index : Nat) (inside : index < 256) : table index < 2 ^ width := by
  rw [right.entries index inside]
  refine divided_lt divisor width 8 _ right.low right.high ?_
  rw [Nat.shiftLeft_eq, Nat.add_comm, Nat.pow_add]
  exact Nat.mul_lt_mul_of_pos_right inside (Nat.two_pow_pos width)

theorem table_check_lt (start : Nat) (message : List UInt8) (small : start < 2 ^ width) : tableCheck width table start message < 2 ^ width := by
  induction message generalizing start with
  | nil => exact small
  | cons byte message ih => exact ih _ (table_entry_lt right _ (table_index_lt right start byte small))

theorem table_check_congr (start : Nat) (message : List UInt8) (small : start < 2 ^ width) :
    bitPoly divisor ∣ bitPoly start * X ^ (8 * message.length) + bitPoly (bigEndian message) * X ^ width -
      bitPoly (tableCheck width table start message) := by
  induction message generalizing start with
  | nil =>
      simp [tableCheck, bigEndian, bit_poly_zero]
  | cons byte message ih =>
      have inside := table_index_lt right start byte small
      have rest := ih (table (tableIndex width start byte)) (table_entry_lt right _ inside)
      have entry := divided_congr divisor width 8 (tableIndex width start byte <<< width)
      rw [← right.entries _ inside, bit_poly_shift, tableIndex, bit_poly_xor, bit_poly_shift, ← tableIndex] at entry
      have whole : (X : Polynomial (ZMod 2)) ^ (8 * (message.length + 1)) = X ^ (8 - width) * X ^ width * X ^ (8 * message.length) := by
        rw [← pow_add, Nat.sub_add_cancel right.narrow, ← pow_add]
        congr 1
        omega
      have both := dvd_add (Dvd.dvd.mul_right entry (X ^ (8 * message.length))) rest
      rw [bit_poly_big_endian, List.length_cons, whole]
      refine (congrArg (bitPoly divisor ∣ ·) ?_).mp both
      rw [tableCheck, tableCheck, List.foldl_cons]
      ring

theorem table_check_remainder (message : List UInt8) :
    bitPoly (tableCheck width table 0 message) = (bitPoly (bigEndian message) * X ^ width) %ₘ bitPoly divisor := by
  obtain ⟨monic, degree⟩ := bit_poly_monic divisor width right.low right.high
  have congruent := table_check_congr right 0 message (Nat.two_pow_pos width)
  rw [bit_poly_zero, zero_mul, zero_add] at congruent
  have small := bit_poly_degree _ width (table_check_lt right 0 message (Nat.two_pow_pos width))
  rw [modByMonic_eq_of_dvd_sub monic congruent]
  exact ((modByMonic_eq_self_iff monic).mpr (lt_of_lt_of_le small degree)).symm

end

end SDCardFs.Lib

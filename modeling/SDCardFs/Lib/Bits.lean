import Mathlib.NumberTheory.Padics.PadicVal.Basic

set_option autoImplicit false

namespace SDCardFs.Lib

-- How many bits of a number are set.
def ones (number : Nat) : Nat := (Nat.digits 2 number).sum

@[simp] theorem ones_zero : ones 0 = 0 := by
  simp [ones]

theorem ones_div_two (number : Nat) : ones number = number % 2 + ones (number / 2) := by
  by_cases empty : number = 0
  · simp [empty]
  · rw [ones, Nat.digits_eq_cons_digits_div Nat.one_lt_two empty, List.sum_cons, ones]

theorem ones_double (half bit : Nat) (small : bit < 2) : ones (2 * half + bit) = bit + ones half := by
  have low : (2 * half + bit) % 2 = bit := by omega
  have high : (2 * half + bit) / 2 = half := by omega
  rw [ones_div_two, low, high]

theorem ones_append (high low width : Nat) (small : low < 2 ^ width) : ones (2 ^ width * high + low) = ones high + ones low := by
  induction width generalizing low with
  | zero =>
      have none : low = 0 := by simpa using small
      simp [none]
  | succ width ih =>
      have half : low / 2 < 2 ^ width := by
        rw [Nat.pow_succ] at small
        omega
      have split : 2 ^ (width + 1) * high + low = 2 * (2 ^ width * high + low / 2) + low % 2 := by
        rw [Nat.pow_succ', Nat.mul_assoc]
        omega
      rw [split, ones_double _ _ (Nat.mod_lt _ Nat.two_pos), ih _ half, ones_div_two low]
      omega

theorem ones_le (width : Nat) : ∀ (number : Nat), number < 2 ^ width → ones number ≤ width := by
  induction width with
  | zero =>
      intro number small
      have none : number = 0 := by simpa using small
      simp [none]
  | succ width ih =>
      intro number small
      have half : number / 2 < 2 ^ width := by
        rw [Nat.pow_succ] at small
        omega
      have rest := ih _ half
      rw [ones_div_two]
      omega

-- The zeros a number ends in.
abbrev trailing (number : Nat) : Nat := padicValNat 2 number

theorem trailing_double (half : Nat) (positive : 0 < half) : trailing (2 * half) = trailing half + 1 := by
  rw [trailing, padicValNat.mul (by decide) (by omega), padicValNat_self, Nat.add_comm]

theorem trailing_odd (half : Nat) : trailing (2 * half + 1) = 0 :=
  padicValNat.eq_zero_of_not_dvd (by omega)

-- Counting up carries through the zeros the sum ends in.
theorem ones_succ (number : Nat) : ones (number + 1) + trailing (number + 1) = ones number + 1 := by
  induction number using Nat.strongRecOn with
  | ind number ih =>
      rcases Nat.even_or_odd' number with ⟨half, rfl | rfl⟩
      · have plain := ones_double half 0 (by decide)
        rw [ones_double half 1 (by decide), trailing_odd]
        rw [Nat.add_zero] at plain
        omega
      · have carried := ih half (by omega)
        have plain := ones_double (half + 1) 0 (by decide)
        have double : 2 * half + 1 + 1 = 2 * (half + 1) := by omega
        rw [double, trailing_double _ (by omega), ones_double half 1 (by decide)]
        rw [Nat.add_zero] at plain
        omega

theorem exists_trailing (number : Nat) (positive : 0 < number) : ∃ half, number = 2 ^ trailing number * (2 * half + 1) := by
  obtain ⟨power, odd, isOdd, rfl⟩ := Nat.exists_eq_two_pow_mul_odd (Nat.pos_iff_ne_zero.mp positive)
  obtain ⟨half, rfl⟩ := isOdd
  refine ⟨half, ?_⟩
  rw [trailing, padicValNat.mul (by positivity) (by omega), padicValNat.prime_pow, padicValNat.eq_zero_of_not_dvd (by omega), Nat.add_zero]

theorem trailing_pow_le (number : Nat) (positive : 0 < number) : 2 ^ trailing number ≤ number :=
  Nat.le_of_dvd positive pow_padicValNat_dvd

-- Taking off the lowest set bit, or a lower power of two.
theorem trailing_sub_lowest (number : Nat) (more : 2 ^ trailing number < number) :
    trailing number < trailing (number - 2 ^ trailing number) := by
  obtain ⟨half, same⟩ := exists_trailing number (Nat.zero_lt_of_lt more)
  generalize trailing number = power at same more ⊢
  subst same
  have some : 0 < half := by
    rcases Nat.eq_zero_or_pos half with none | some
    · rw [none, Nat.mul_zero, Nat.zero_add, Nat.mul_one] at more
      exact absurd more (Nat.lt_irrefl _)
    · exact some
  have left : 2 ^ power * (2 * half + 1) - 2 ^ power = 2 ^ (power + 1) * half := by
    rw [Nat.mul_add, Nat.mul_one, Nat.add_sub_cancel, Nat.pow_succ, Nat.mul_assoc]
  rw [left]
  exact (padicValNat_dvd_iff_le (by positivity)).mp (Nat.dvd_mul_right _ _)

theorem trailing_sub_lower (number power : Nat) (lower : power < trailing number) (positive : 0 < number) :
    trailing (number - 2 ^ power) = power := by
  obtain ⟨half, same⟩ := exists_trailing number positive
  generalize trailing number = top at same lower
  obtain ⟨more, rfl⟩ : ∃ more, top = power + 1 + more := ⟨top - power - 1, by omega⟩
  have whole : number = 2 ^ power * (2 * (2 ^ more * (2 * half + 1))) := by
    rw [same, Nat.pow_add, Nat.pow_succ, Nat.mul_assoc, Nat.mul_assoc]
  have some : 0 < 2 ^ more * (2 * half + 1) := by positivity
  have odd : 2 * (2 ^ more * (2 * half + 1)) - 1 = 2 * (2 ^ more * (2 * half + 1) - 1) + 1 := by omega
  have left : number - 2 ^ power = 2 ^ power * (2 * (2 ^ more * (2 * half + 1) - 1) + 1) := by
    rw [← odd, Nat.mul_sub, Nat.mul_one, ← whole]
  rw [left, trailing, padicValNat.mul (by positivity) (by omega), padicValNat.prime_pow, padicValNat.eq_zero_of_not_dvd (by omega), Nat.add_zero]

-- A number and its two's complement share the lowest set bit and no other.
theorem lowest_bit (number width : Nat) (positive : 0 < number) (small : number < 2 ^ width) :
    number &&& (2 ^ width - number) = 2 ^ trailing number := by
  obtain ⟨half, same⟩ := exists_trailing number positive
  generalize trailing number = power at same ⊢
  subst same
  have less : power < width := by
    rw [← Nat.pow_lt_pow_iff_right (a := 2) (by decide)]
    exact Nat.lt_of_le_of_lt (Nat.le_mul_of_pos_right _ (by omega)) small
  obtain ⟨rest, rfl⟩ : ∃ rest, width = power + (1 + rest) := ⟨width - power - 1, by omega⟩
  rw [Nat.pow_add] at small ⊢
  have inside : 2 * half + 1 < 2 ^ (1 + rest) := Nat.lt_of_mul_lt_mul_left small
  have room : half < 2 ^ rest := by
    rw [Nat.pow_add] at inside
    omega
  have other : 2 ^ (1 + rest) - (2 * half + 1) = 2 * (2 ^ rest - (half + 1)) + 1 := by
    rw [Nat.pow_add]
    omega
  rw [← Nat.mul_sub, other]
  refine Nat.eq_of_testBit_eq fun bit => ?_
  rw [Nat.testBit_and, Nat.testBit_two_pow_mul, Nat.testBit_two_pow_mul, Nat.testBit_two_pow]
  by_cases low : bit < power
  · have apart : power ≠ bit := by omega
    have before : ¬ bit ≥ power := by omega
    simp [before, apart]
  · obtain ⟨above, rfl⟩ : ∃ above, bit = power + above := ⟨bit - power, by omega⟩
    rw [Nat.add_sub_cancel_left]
    cases above with
    | zero => simp [Nat.testBit_zero]
    | succ above =>
        have first : (2 * half + 1).testBit (above + 1) = half.testBit above := by
          rw [Nat.testBit_add_one]
          congr 1
          omega
        have second : (2 * (2 ^ rest - (half + 1)) + 1).testBit (above + 1) = (2 ^ rest - (half + 1)).testBit above := by
          rw [Nat.testBit_add_one]
          congr 1
          omega
        rw [first, second, Nat.testBit_two_pow_sub_succ room]
        cases half.testBit above with
        | true => simp
        | false => simp

-- A mask over digits of a fixed width takes each digit by itself, also of a
-- number shifted down by less than what the mask leaves out of every digit.
theorem and_digit (high low maskHigh maskLow width shift : Nat) (lowSmall : low < 2 ^ width) (within : shift ≤ width)
    (maskSmall : maskLow < 2 ^ (width - shift)) :
    (2 ^ width * high + low) / 2 ^ shift &&& (2 ^ width * maskHigh + maskLow) =
      2 ^ width * (high / 2 ^ shift &&& maskHigh) + (low / 2 ^ shift &&& maskLow) := by
  have wide : maskLow < 2 ^ width := Nat.lt_of_lt_of_le maskSmall (Nat.pow_le_pow_right Nat.two_pos (Nat.sub_le _ _))
  have both : low / 2 ^ shift &&& maskLow < 2 ^ width := Nat.and_lt_two_pow _ wide
  refine Nat.eq_of_testBit_eq fun bit => ?_
  rw [Nat.testBit_and, Nat.testBit_div_two_pow, Nat.testBit_two_pow_mul_add _ lowSmall, Nat.testBit_two_pow_mul_add _ wide,
    Nat.testBit_two_pow_mul_add _ both]
  by_cases inside : bit < width
  · rw [if_pos inside, if_pos inside, Nat.testBit_and, Nat.testBit_div_two_pow]
    by_cases reached : bit + shift < width
    · rw [if_pos reached]
    · have unmasked : maskLow.testBit bit = false :=
        Nat.testBit_lt_two_pow (Nat.lt_of_lt_of_le maskSmall (Nat.pow_le_pow_right Nat.two_pos (by omega)))
      simp [unmasked]
  · have beyond : ¬ bit + shift < width := by omega
    have moved : bit + shift - width = bit - width + shift := by omega
    rw [if_neg inside, if_neg inside, if_neg beyond, Nat.testBit_and, Nat.testBit_div_two_pow, moved]

-- The logarithm of what is left after a shift.
theorem log2_shift (number shift : Nat) (reached : 2 ^ shift ≤ number) : number.log2 = (number / 2 ^ shift).log2 + shift := by
  have positive : 0 < 2 ^ shift := Nat.two_pow_pos shift
  have some : number / 2 ^ shift ≠ 0 := Nat.pos_iff_ne_zero.mp (Nat.div_pos reached positive)
  rw [Nat.log2_eq_iff (by omega)]
  have least := Nat.log2_self_le some
  have most := @Nat.lt_log2_self (number / 2 ^ shift)
  constructor
  · rw [Nat.pow_add]
    exact (Nat.le_div_iff_mul_le positive).mp least
  · rw [Nat.add_right_comm, Nat.pow_add]
    exact (Nat.div_lt_iff_lt_mul positive).mp most

end SDCardFs.Lib

import SDCardFs.Lib.SkipList
import SDCardFs.Littlefs.Paths

set_option autoImplicit false

namespace SDCardFs.Littlefs

-- A step of the search for the highest bit: half of the word is shifted out
-- where the other half has a bit set.
def npw2Shift (word limit shift : UInt32) : UInt32 := if word > limit then shift else 0

theorem npw2_shift_log (word limit shift : UInt32) (width : Nat) (top : limit.toNat + 1 = 2 ^ width) (amount : shift.toNat = width)
    (short : width < 32) :
    (word >>> npw2Shift word limit shift).toNat.log2 + (npw2Shift word limit shift).toNat = word.toNat.log2 ∧
      (word.toNat < 2 ^ (width + width) → (word >>> npw2Shift word limit shift).toNat < 2 ^ width) := by
  by_cases high : word > limit
  · have reached : 2 ^ width ≤ word.toNat := by
      have more := UInt32.lt_iff_toNat_lt.mp high
      omega
    rw [npw2Shift, if_pos high, UInt32.toNat_shiftRight, amount, Nat.mod_eq_of_lt short, Nat.shiftRight_eq_div_pow]
    refine ⟨(Lib.log2_shift _ _ reached).symm, fun bound => ?_⟩
    rw [Nat.pow_add] at bound
    exact Nat.div_lt_of_lt_mul bound
  · have less : ¬ limit.toNat < word.toNat := fun more => high (UInt32.lt_iff_toNat_lt.mpr more)
    rw [npw2Shift, if_neg high]
    refine ⟨?_, fun _ => ?_⟩
    · simp
    · simp only [UInt32.shiftRight_zero]
      omega

theorem npw2_flag_or (first second third fourth fifth : Bool) :
    ((((((if first then (16 : UInt32) else 0) ||| if second then 8 else 0) ||| if third then 4 else 0) ||| if fourth then 2 else 0) |||
      if fifth then 1 else 0) + 1).toNat =
      ((((if first then (16 : UInt32) else 0).toNat + (if second then (8 : UInt32) else 0).toNat + (if third then (4 : UInt32) else 0).toNat) +
        (if fourth then (2 : UInt32) else 0).toNat) + (if fifth then (1 : UInt32) else 0).toNat) + 1 := by
  revert first second third fourth fifth
  decide

theorem shift_flag (word limit amount shift : UInt32) (same : (1 : UInt32) <<< amount = shift) :
    (if word > limit then (1 : UInt32) else 0) <<< amount = npw2Shift word limit shift := by
  rw [npw2Shift]
  split
  · exact same
  · exact UInt32.zero_shiftLeft

theorem npw2_shifts (word : UInt32) :
    lfsNpw2 word =
      (let a := word - 1
       let b := a >>> npw2Shift a 0xffff 16
       let c := b >>> npw2Shift b 0xff 8
       let d := c >>> npw2Shift c 0xf 4
       let e := d >>> npw2Shift d 0x3 2
       ((((npw2Shift a 0xffff 16 ||| npw2Shift b 0xff 8) ||| npw2Shift c 0xf 4) ||| npw2Shift d 0x3 2) ||| (e >>> 1)) + 1) := by
  have four : (1 : UInt32) <<< 4 = 16 := rfl
  have three : (1 : UInt32) <<< 3 = 8 := rfl
  have two : (1 : UInt32) <<< 2 = 4 := rfl
  have one : (1 : UInt32) <<< 1 = 2 := rfl
  simp only [lfsNpw2, shift_flag _ _ _ _ four, shift_flag _ _ _ _ three, shift_flag _ _ _ _ two, shift_flag _ _ _ _ one]

theorem small_log (word : UInt32) (small : word.toNat < 2 ^ 2) :
    word >>> 1 = (if decide (1 < word) then 1 else 0) ∧ (if decide (1 < word) then (1 : UInt32) else 0).toNat = word.toNat.log2 := by
  have cases : word = 0 ∨ word = 1 ∨ word = 2 ∨ word = 3 := by
    simp only [← UInt32.toNat_inj, UInt32.reduceToNat]
    omega
  rcases cases with rfl | rfl | rfl | rfl
  all_goals decide

-- The position of the highest bit of the number before, from one up.
theorem lfs_npw2_toNat (word : UInt32) : (lfsNpw2 word).toNat = (word - 1).toNat.log2 + 1 := by
  rw [npw2_shifts]
  generalize word - 1 = a
  dsimp only
  obtain ⟨log16, bound16⟩ := npw2_shift_log a 0xffff 16 16 rfl rfl (by decide)
  generalize same16 : a >>> npw2Shift a 0xffff 16 = b at log16 bound16 ⊢
  obtain ⟨log8, bound8⟩ := npw2_shift_log b 0xff 8 8 rfl rfl (by decide)
  generalize same8 : b >>> npw2Shift b 0xff 8 = c at log8 bound8 ⊢
  obtain ⟨log4, bound4⟩ := npw2_shift_log c 0xf 4 4 rfl rfl (by decide)
  generalize same4 : c >>> npw2Shift c 0xf 4 = d at log4 bound4 ⊢
  obtain ⟨log2, bound2⟩ := npw2_shift_log d 0x3 2 2 rfl rfl (by decide)
  generalize same2 : d >>> npw2Shift d 0x3 2 = e at log2 bound2 ⊢
  obtain ⟨last, log1⟩ := small_log e (bound2 (bound4 (bound8 (bound16 a.toNat_lt))))
  have flags := npw2_flag_or (decide (a > 0xffff)) (decide (b > 0xff)) (decide (c > 0xf)) (decide (d > 0x3)) (decide (1 < e))
  rw [log1] at flags
  simp only [decide_eq_true_eq] at flags last
  rw [last]
  have joined : ∀ word limit shift : UInt32, (if word > limit then shift else 0) = npw2Shift word limit shift := fun _ _ _ => rfl
  rw [joined, joined, joined, joined] at flags
  rw [flags, ← log16, ← log8, ← log4, ← log2]
  omega

-- The zeros a word ends in; none in zero.
theorem lfs_ctz_toNat (word : UInt32) : (lfsCtz word).toNat = Lib.trailing word.toNat := by
  by_cases zero : word = 0
  · subst zero
    simp only [UInt32.toNat_zero, Lib.trailing, padicValNat_zero_right]
    decide
  · have positive : 0 < word.toNat := by
      rcases Nat.eq_zero_or_pos word.toNat with none | some
      · exact absurd (UInt32.toNat_inj.mp none) zero
      · exact some
    have small := word.toNat_lt
    have complement : (0 - word).toNat = 2 ^ 32 - word.toNat := by
      rw [UInt32.toNat_sub, UInt32.toNat_zero]
      omega
    have lowest : (word &&& (0 - word)).toNat = 2 ^ Lib.trailing word.toNat := by
      rw [UInt32.toNat_and, complement, Lib.lowest_bit _ _ positive small]
    have back : (word &&& (0 - word)) + 1 - 1 = word &&& (0 - word) := UInt32.add_sub_cancel _ _
    have level := lfs_npw2_toNat ((word &&& (0 - word)) + 1)
    rw [back, lowest, Nat.log2_two_pow] at level
    have few : Lib.trailing word.toNat < 32 := by
      rw [← Nat.pow_lt_pow_iff_right (a := 2) (by decide)]
      exact Nat.lt_of_le_of_lt (Lib.trailing_pow_le _ positive) small
    rw [lfsCtz, UInt32.toNat_sub_of_le _ _ (UInt32.le_iff_toNat_le.mpr (by rw [level]; exact Nat.le_add_left _ _)), level]
    rfl

-- Four bytes, the highest first.
def ofBytes (first second third fourth : Nat) : Nat := 2 ^ 8 * (2 ^ 8 * (2 ^ 8 * first + second) + third) + fourth

theorem exists_bytes (number : Nat) (small : number < 2 ^ 32) :
    ∃ first second third fourth, number = ofBytes first second third fourth ∧ first < 2 ^ 8 ∧ second < 2 ^ 8 ∧ third < 2 ^ 8 ∧ fourth < 2 ^ 8 :=
  ⟨number / 2 ^ 24, number / 2 ^ 16 % 2 ^ 8, number / 2 ^ 8 % 2 ^ 8, number % 2 ^ 8, by simp only [ofBytes]; omega, by omega, by omega, by omega,
    by omega⟩

theorem and_bytes (first : Nat) {second third fourth shift mask : Nat} (secondSmall : second < 2 ^ 8) (thirdSmall : third < 2 ^ 8)
    (fourthSmall : fourth < 2 ^ 8) (within : shift ≤ 8) (maskSmall : mask < 2 ^ (8 - shift)) :
    ofBytes first second third fourth / 2 ^ shift &&& ofBytes mask mask mask mask =
      ofBytes (first / 2 ^ shift &&& mask) (second / 2 ^ shift &&& mask) (third / 2 ^ shift &&& mask) (fourth / 2 ^ shift &&& mask) := by
  simp only [ofBytes, Lib.and_digit _ _ _ _ _ _ fourthSmall within maskSmall, Lib.and_digit _ _ _ _ _ _ thirdSmall within maskSmall,
    Lib.and_digit _ _ _ _ _ _ secondSmall within maskSmall]

section
variable (first second third fourth : Nat)

theorem bytes_add (other1 other2 other3 other4 : Nat) :
    ofBytes first second third fourth + ofBytes other1 other2 other3 other4 =
      ofBytes (first + other1) (second + other2) (third + other3) (fourth + other4) := by
  simp only [ofBytes]
  omega

theorem bytes_sub (other1 other2 other3 other4 : Nat) (less1 : other1 ≤ first) (less2 : other2 ≤ second) (less3 : other3 ≤ third)
    (less4 : other4 ≤ fourth) :
    ofBytes other1 other2 other3 other4 ≤ ofBytes first second third fourth ∧
      ofBytes first second third fourth - ofBytes other1 other2 other3 other4 =
        ofBytes (first - other1) (second - other2) (third - other3) (fourth - other4) := by
  simp only [ofBytes]
  omega

theorem bytes_lt (less1 : first < 2 ^ 8) (less2 : second < 2 ^ 8) (less3 : third < 2 ^ 8) (less4 : fourth < 2 ^ 8) :
    ofBytes first second third fourth < 2 ^ 32 := by
  simp only [ofBytes]
  omega

-- A shift by a nibble, the nibbles that cross into the next byte left aside.
theorem bytes_shift :
    ofBytes first second third fourth / 2 ^ 4 =
      ofBytes (first / 2 ^ 4) (second / 2 ^ 4 + 2 ^ 4 * (first % 2 ^ 4)) (third / 2 ^ 4 + 2 ^ 4 * (second % 2 ^ 4))
        (fourth / 2 ^ 4 + 2 ^ 4 * (third % 2 ^ 4)) := by
  have moved : ofBytes first second third fourth / 2 ^ 4 = 2 ^ 4 * (2 ^ 8 * (2 ^ 8 * first + second) + third) + fourth / 2 ^ 4 := by
    simp only [ofBytes]
    omega
  rw [moved]
  simp only [ofBytes]
  omega

-- Multiplied by a one in every byte, the highest byte is the sum.
theorem bytes_sum (less1 : first ≤ 8) (less2 : second ≤ 8) (less3 : third ≤ 8) (less4 : fourth ≤ 8) :
    ofBytes first second third fourth * 0x01010101 % 2 ^ 32 / 2 ^ 24 = first + second + third + fourth := by
  have product : ofBytes first second third fourth * 0x01010101 =
      2 ^ 32 * (2 ^ 16 * first + 2 ^ 8 * (first + second) + (first + second + third)) +
        (2 ^ 24 * (first + second + third + fourth) + (2 ^ 16 * (second + third + fourth) + 2 ^ 8 * (third + fourth) + fourth)) := by
    simp only [ofBytes]
    omega
  have below : 2 ^ 16 * (second + third + fourth) + 2 ^ 8 * (third + fourth) + fourth < 2 ^ 24 := by omega
  rw [product, Nat.mul_add_mod, Nat.mod_eq_of_lt (by omega), Nat.mul_add_div (by decide), Nat.div_eq_of_lt below, Nat.add_zero]

end

-- The three stages of lfs_popc on one byte.
def popcPairs (byte : Nat) : Nat := byte - (byte / 2 ^ 1 &&& 0x55)
def popcNibbles (byte : Nat) : Nat := (byte / 2 ^ 0 &&& 0x33) + (byte / 2 ^ 2 &&& 0x33)
def popcByte (byte : Nat) : Nat := (byte + byte / 2 ^ 4) % 2 ^ 4

theorem popc_byte : ∀ byte, byte < 2 ^ 8 → (byte / 2 ^ 1 &&& 0x55) ≤ byte ∧ popcPairs byte < 2 ^ 8 ∧ (popcNibbles (popcPairs byte) / 2 ^ 4 ≤ 4 ∧ popcNibbles (popcPairs byte) % 2 ^ 4 ≤ 4) ∧
    popcByte (popcNibbles (popcPairs byte)) ≤ 8 ∧ popcByte (popcNibbles (popcPairs byte)) =
      byte % 2 + byte / 2 % 2 + byte / 4 % 2 + byte / 8 % 2 + byte / 16 % 2 + byte / 32 % 2 + byte / 64 % 2 + byte / 128 % 2 := by
  decide +kernel

theorem ones_byte (byte : Nat) (small : byte < 2 ^ 8) :
    Lib.ones byte = byte % 2 + byte / 2 % 2 + byte / 4 % 2 + byte / 8 % 2 + byte / 16 % 2 + byte / 32 % 2 + byte / 64 % 2 + byte / 128 % 2 := by
  have last : byte / 256 = 0 := by omega
  rw [Lib.ones_div_two, Lib.ones_div_two (byte / 2), Lib.ones_div_two (byte / 2 / 2), Lib.ones_div_two (byte / 2 / 2 / 2)]
  rw [Lib.ones_div_two (byte / 2 / 2 / 2 / 2), Lib.ones_div_two (byte / 2 / 2 / 2 / 2 / 2), Lib.ones_div_two (byte / 2 / 2 / 2 / 2 / 2 / 2)]
  rw [Lib.ones_div_two (byte / 2 / 2 / 2 / 2 / 2 / 2 / 2)]
  simp only [Nat.div_div_eq_div_mul, Nat.reduceMul, last, Lib.ones_zero]
  omega

theorem ones_bytes {first second third fourth : Nat} (secondSmall : second < 2 ^ 8) (thirdSmall : third < 2 ^ 8) (fourthSmall : fourth < 2 ^ 8) :
    Lib.ones (ofBytes first second third fourth) = Lib.ones first + Lib.ones second + Lib.ones third + Lib.ones fourth := by
  rw [ofBytes, Lib.ones_append _ _ _ fourthSmall, Lib.ones_append _ _ _ thirdSmall, Lib.ones_append _ _ _ secondSmall]

theorem popc_pairs_bytes {first second third fourth : Nat} (firstSmall : first < 2 ^ 8) (secondSmall : second < 2 ^ 8) (thirdSmall : third < 2 ^ 8)
    (fourthSmall : fourth < 2 ^ 8) (word : UInt32) (same : word.toNat = ofBytes first second third fourth) :
    (word - ((word >>> (1 : UInt32)) &&& 0x55555555)).toNat =
      ofBytes (popcPairs first) (popcPairs second) (popcPairs third) (popcPairs fourth) := by
  have masked := and_bytes first secondSmall thirdSmall fourthSmall (by decide : 1 ≤ 8) (by decide : 0x55 < 2 ^ (8 - 1))
  have half : ((word >>> (1 : UInt32)) &&& 0x55555555).toNat = word.toNat / 2 ^ 1 &&& ofBytes 0x55 0x55 0x55 0x55 := by
    rw [UInt32.toNat_and, UInt32.toNat_shiftRight, Nat.shiftRight_eq_div_pow]
    rfl
  rw [same, masked] at half
  obtain ⟨fits, difference⟩ := bytes_sub first second third fourth _ _ _ _ (popc_byte first firstSmall).1 (popc_byte second secondSmall).1
    (popc_byte third thirdSmall).1 (popc_byte fourth fourthSmall).1
  rw [← half, ← same] at fits difference
  rw [UInt32.toNat_sub_of_le _ _ (UInt32.le_iff_toNat_le.mpr fits), difference]
  rfl

theorem popc_nibbles_bytes {first second third fourth : Nat} (secondSmall : second < 2 ^ 8)
    (thirdSmall : third < 2 ^ 8) (fourthSmall : fourth < 2 ^ 8) (word : UInt32) (same : word.toNat = ofBytes first second third fourth) :
    ((word &&& 0x33333333) + ((word >>> (2 : UInt32)) &&& 0x33333333)).toNat =
      ofBytes (popcNibbles first) (popcNibbles second) (popcNibbles third) (popcNibbles fourth) := by
  have low := and_bytes first secondSmall thirdSmall fourthSmall (by decide : 0 ≤ 8) (by decide : 0x33 < 2 ^ (8 - 0))
  have high := and_bytes first secondSmall thirdSmall fourthSmall (by decide : 2 ≤ 8) (by decide : 0x33 < 2 ^ (8 - 2))
  have lowWord : (word &&& 0x33333333).toNat = word.toNat / 2 ^ 0 &&& ofBytes 0x33 0x33 0x33 0x33 := by
    rw [UInt32.toNat_and, Nat.pow_zero, Nat.div_one]
    rfl
  have highWord : ((word >>> (2 : UInt32)) &&& 0x33333333).toNat = word.toNat / 2 ^ 2 &&& ofBytes 0x33 0x33 0x33 0x33 := by
    rw [UInt32.toNat_and, UInt32.toNat_shiftRight, Nat.shiftRight_eq_div_pow]
    rfl
  have bound : ∀ byte, popcNibbles byte < 2 ^ 8 := fun byte =>
    Nat.lt_of_le_of_lt (Nat.add_le_add Nat.and_le_right Nat.and_le_right) (by decide)
  rw [UInt32.toNat_add, lowWord, highWord, same, low, high, bytes_add]
  exact Nat.mod_eq_of_lt (bytes_lt _ _ _ _ (bound first) (bound second) (bound third) (bound fourth))

theorem popc_sum_bytes {first second third fourth : Nat} (firstSmall : first / 2 ^ 4 ≤ 4 ∧ first % 2 ^ 4 ≤ 4)
    (secondSmall : second / 2 ^ 4 ≤ 4 ∧ second % 2 ^ 4 ≤ 4) (thirdSmall : third / 2 ^ 4 ≤ 4 ∧ third % 2 ^ 4 ≤ 4)
    (fourthSmall : fourth / 2 ^ 4 ≤ 4 ∧ fourth % 2 ^ 4 ≤ 4) (word : UInt32) (same : word.toNat = ofBytes first second third fourth) :
    ((word + (word >>> (4 : UInt32))) &&& 0x0f0f0f0f).toNat = ofBytes (popcByte first) (popcByte second) (popcByte third) (popcByte fourth) := by
  have sum : (word + (word >>> (4 : UInt32))).toNat =
      ofBytes (first + first / 2 ^ 4) (second + second / 2 ^ 4 + 2 ^ 4 * (first % 2 ^ 4)) (third + third / 2 ^ 4 + 2 ^ 4 * (second % 2 ^ 4))
        (fourth + fourth / 2 ^ 4 + 2 ^ 4 * (third % 2 ^ 4)) := by
    have shifted : (word >>> (4 : UInt32)).toNat = word.toNat / 2 ^ 4 := by
      rw [UInt32.toNat_shiftRight, Nat.shiftRight_eq_div_pow]
      rfl
    rw [UInt32.toNat_add, shifted, same, bytes_shift, bytes_add, ← Nat.add_assoc, ← Nat.add_assoc, ← Nat.add_assoc]
    exact Nat.mod_eq_of_lt (bytes_lt _ _ _ _ (by omega) (by omega) (by omega) (by omega))
  have masked := and_bytes (first + first / 2 ^ 4) (by omega : second + second / 2 ^ 4 + 2 ^ 4 * (first % 2 ^ 4) < 2 ^ 8)
    (by omega : third + third / 2 ^ 4 + 2 ^ 4 * (second % 2 ^ 4) < 2 ^ 8) (by omega : fourth + fourth / 2 ^ 4 + 2 ^ 4 * (third % 2 ^ 4) < 2 ^ 8)
    (by decide : 0 ≤ 8) (by decide : 2 ^ 4 - 1 < 2 ^ (8 - 0))
  have whole : ((word + (word >>> (4 : UInt32))) &&& 0x0f0f0f0f).toNat =
      (word + (word >>> (4 : UInt32))).toNat / 2 ^ 0 &&& ofBytes (2 ^ 4 - 1) (2 ^ 4 - 1) (2 ^ 4 - 1) (2 ^ 4 - 1) := by
    rw [UInt32.toNat_and, Nat.pow_zero, Nat.div_one]
    rfl
  have carried : ∀ byte other : Nat, (byte + 2 ^ 4 * other) % 2 ^ 4 = byte % 2 ^ 4 := fun _ _ => Nat.add_mul_mod_self_left _ _ _
  rw [whole, sum, masked]
  simp only [Nat.pow_zero, Nat.div_one, Nat.and_two_pow_sub_one_eq_mod, carried, popcByte]

-- The bits set in a word.
theorem lfs_popc_toNat (word : UInt32) : (lfsPopc word).toNat = Lib.ones word.toNat := by
  obtain ⟨first, second, third, fourth, same, firstSmall, secondSmall, thirdSmall, fourthSmall⟩ := exists_bytes word.toNat word.toNat_lt
  obtain ⟨-, pairs1, nibbles1, few1, ones1⟩ := popc_byte first firstSmall
  obtain ⟨-, pairs2, nibbles2, few2, ones2⟩ := popc_byte second secondSmall
  obtain ⟨-, pairs3, nibbles3, few3, ones3⟩ := popc_byte third thirdSmall
  obtain ⟨-, pairs4, nibbles4, few4, ones4⟩ := popc_byte fourth fourthSmall
  have pairs := popc_pairs_bytes firstSmall secondSmall thirdSmall fourthSmall word same
  have nibbles := popc_nibbles_bytes pairs2 pairs3 pairs4 _ pairs
  have sums := popc_sum_bytes nibbles1 nibbles2 nibbles3 nibbles4 _ nibbles
  rw [lfsPopc, UInt32.toNat_shiftRight, UInt32.toNat_mul, sums, Nat.shiftRight_eq_div_pow, same, ones_bytes secondSmall thirdSmall fourthSmall,
    ones_byte first firstSmall, ones_byte second secondSmall, ones_byte third thirdSmall, ones_byte fourth fourthSmall, ← ones1, ← ones2,
    ← ones3, ← ones4]
  exact bytes_sum _ _ _ _ few1 few2 few3 few4

end SDCardFs.Littlefs

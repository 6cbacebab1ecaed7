import Mathlib.Algebra.Group.Nat.Defs
import SDCardFs.Littlefs.Types

set_option autoImplicit false

namespace SDCardFs.Littlefs

-- A word in memory as it is written to the device, most significant byte first.
def lfsTobe32 (word : UInt32) : List UInt8 :=
  [(word >>> 24).toUInt8, (word >>> 16).toUInt8, (word >>> 8).toUInt8, word.toUInt8]

theorem or_bytes (low high width : Nat) (small : low < 2 ^ width) : low ||| high * 2 ^ width = low + high * 2 ^ width := by
  rw [Nat.or_comm, Nat.mul_comm high, ← Nat.two_pow_add_eq_or_of_lt small, Nat.add_comm]

theorem byte_shift (byte : UInt8) (steps : UInt32) (few : steps.toNat ≤ 24) : (byte.toUInt32 <<< steps).toNat = byte.toNat * 2 ^ steps.toNat := by
  have small := byte.toNat_lt
  have fits : byte.toNat * 2 ^ steps.toNat < 2 ^ 32 := by
    calc byte.toNat * 2 ^ steps.toNat < 2 ^ 8 * 2 ^ steps.toNat := Nat.mul_lt_mul_of_pos_right small (Nat.two_pow_pos _)
      _ ≤ 2 ^ 8 * 2 ^ 24 := Nat.mul_le_mul_left _ (Nat.pow_le_pow_right Nat.two_pos few)
  have under : steps.toNat % 32 = steps.toNat := Nat.mod_eq_of_lt (by omega)
  rw [UInt32.toNat_shiftLeft, under, Nat.shiftLeft_eq, UInt8.toNat_toUInt32, Nat.mod_eq_of_lt fits]

theorem word_of_bytes (first second third fourth : UInt8) :
    (first.toUInt32 ||| (second.toUInt32 <<< 8) ||| (third.toUInt32 <<< 16) ||| (fourth.toUInt32 <<< 24)).toNat =
      first.toNat + second.toNat * 2 ^ 8 + third.toNat * 2 ^ 16 + fourth.toNat * 2 ^ 24 := by
  have small (byte : UInt8) : byte.toNat < 2 ^ 8 := byte.toNat_lt
  have one := small first
  have two := small second
  have three := small third
  have eight : (8 : UInt32).toNat = 8 := rfl
  have sixteen : (16 : UInt32).toNat = 16 := rfl
  have more : (24 : UInt32).toNat = 24 := rfl
  rw [UInt32.toNat_or, UInt32.toNat_or, UInt32.toNat_or, byte_shift _ _ (by decide), byte_shift _ _ (by decide), byte_shift _ _ (by decide),
    UInt8.toNat_toUInt32, eight, sixteen, more, or_bytes _ _ 8 one, or_bytes _ _ 16 (by omega), or_bytes _ _ 24 (by omega)]

theorem four_bytes (bytes : List UInt8) (four : bytes.length = 4) : ∃ first second third fourth, bytes = [first, second, third, fourth] := by
  obtain ⟨first, rest, rfl⟩ := List.exists_cons_of_length_eq_add_one four
  obtain ⟨second, rest, rfl⟩ := List.exists_cons_of_length_eq_add_one (Nat.succ.inj four)
  obtain ⟨third, rest, rfl⟩ := List.exists_cons_of_length_eq_add_one (Nat.succ.inj (Nat.succ.inj four))
  obtain ⟨fourth, rest, rfl⟩ := List.exists_cons_of_length_eq_add_one (Nat.succ.inj (Nat.succ.inj (Nat.succ.inj four)))
  obtain rfl := List.eq_nil_of_length_eq_zero (Nat.succ.inj (Nat.succ.inj (Nat.succ.inj (Nat.succ.inj four))))
  exact ⟨first, second, third, fourth, rfl⟩

theorem fromle32_toNat (first second third fourth : UInt8) :
    (lfsFromle32 [first, second, third, fourth]).toNat = first.toNat + second.toNat * 2 ^ 8 + third.toNat * 2 ^ 16 + fourth.toNat * 2 ^ 24 :=
  word_of_bytes first second third fourth

theorem frombe32_toNat (first second third fourth : UInt8) :
    (lfsFrombe32 [first, second, third, fourth]).toNat = fourth.toNat + third.toNat * 2 ^ 8 + second.toNat * 2 ^ 16 + first.toNat * 2 ^ 24 := by
  rw [← word_of_bytes]
  apply congrArg UInt32.toNat
  change first.toUInt32 <<< 24 ||| second.toUInt32 <<< 16 ||| third.toUInt32 <<< 8 ||| fourth.toUInt32 = _
  rw [UInt32.or_comm, UInt32.or_comm _ (third.toUInt32 <<< 8), ← UInt32.or_assoc, UInt32.or_comm (first.toUInt32 <<< 24), ← UInt32.or_assoc]

theorem byte_of_word (word steps : UInt32) (few : steps.toNat < 32) : (word >>> steps).toUInt8.toNat = word.toNat / 2 ^ steps.toNat % 256 := by
  rw [UInt32.toNat_toUInt8, UInt32.toNat_shiftRight, Nat.mod_eq_of_lt few, Nat.shiftRight_eq_div_pow]

theorem fromle32_tole32 (word : UInt32) : lfsFromle32 (lfsTole32 word) = word := by
  have small := word.toNat_lt
  have eight := byte_of_word word 8 (by decide)
  have sixteen := byte_of_word word 16 (by decide)
  have more := byte_of_word word 24 (by decide)
  apply UInt32.toNat_inj.mp
  rw [lfsTole32, fromle32_toNat, UInt32.toNat_toUInt8, eight, sixteen, more]
  simp only [UInt32.reduceToNat]
  omega

theorem frombe32_tobe32 (word : UInt32) : lfsFrombe32 (lfsTobe32 word) = word := by
  have small := word.toNat_lt
  have eight := byte_of_word word 8 (by decide)
  have sixteen := byte_of_word word 16 (by decide)
  have more := byte_of_word word 24 (by decide)
  apply UInt32.toNat_inj.mp
  rw [lfsTobe32, frombe32_toNat, UInt32.toNat_toUInt8, eight, sixteen, more]
  simp only [UInt32.reduceToNat]
  omega

theorem tole32_fromle32 (bytes : List UInt8) (four : bytes.length = 4) : lfsTole32 (lfsFromle32 bytes) = bytes := by
  obtain ⟨first, second, third, fourth, rfl⟩ := four_bytes bytes four
  have word := fromle32_toNat first second third fourth
  have one := first.toNat_lt
  have two := second.toNat_lt
  have three := third.toNat_lt
  have last := fourth.toNat_lt
  have bytes : ∀ byte : UInt8, ∀ found : UInt8, found.toNat = byte.toNat → found = byte := fun _ _ same => UInt8.toNat_inj.mp same
  rw [lfsTole32, List.cons.injEq, List.cons.injEq, List.cons.injEq, List.cons.injEq]
  refine ⟨bytes _ _ ?_, bytes _ _ ?_, bytes _ _ ?_, bytes _ _ ?_, rfl⟩
  · rw [UInt32.toNat_toUInt8, word]
    omega
  · rw [byte_of_word _ 8 (by decide), word]
    simp only [UInt32.reduceToNat]
    omega
  · rw [byte_of_word _ 16 (by decide), word]
    simp only [UInt32.reduceToNat]
    omega
  · rw [byte_of_word _ 24 (by decide), word]
    simp only [UInt32.reduceToNat]
    omega

theorem crc_append (crc : UInt32) (first second : List UInt8) : lfsCrc (lfsCrc crc first) second = lfsCrc crc (first ++ second) :=
  (List.foldl_append ..).symm

theorem nibble_apart (first second : UInt32) (same : first.toNat % 16 = second.toNat % 16) : (first ^^^ second) &&& 0xf = 0 := by
  apply UInt32.toNat_inj.mp
  have mask : (0xf : UInt32).toNat = 2 ^ 4 - 1 := rfl
  rw [UInt32.toNat_and, UInt32.toNat_xor, mask, Nat.and_two_pow_sub_one_eq_mod, Nat.xor_mod_two_pow]
  exact (congrArg (fun low => low ^^^ second.toNat % 2 ^ 4) same).trans (Nat.xor_self _)

theorem shift_toNat (word steps : UInt32) (few : steps.toNat < 32) : (word >>> steps).toNat = word.toNat / 2 ^ steps.toNat := by
  rw [UInt32.toNat_shiftRight, Nat.mod_eq_of_lt few, Nat.shiftRight_eq_div_pow]

-- A step over the low byte of the CRC itself only shifts it out.
theorem crc_own_byte (crc : UInt32) (byte : UInt8) (low : byte = crc.toUInt8) : lfsCrc crc [byte] = crc >>> 8 := by
  have number : byte.toUInt32.toNat = crc.toNat % 256 := by rw [low, UInt8.toNat_toUInt32, UInt32.toNat_toUInt8]
  have first : (crc ^^^ (byte.toUInt32 >>> 0)) &&& 0xf = 0 := by
    apply nibble_apart
    rw [UInt32.shiftRight_zero, number]
    omega
  have second : ((crc >>> 4) ^^^ (byte.toUInt32 >>> 4)) &&& 0xf = 0 := by
    apply nibble_apart
    rw [shift_toNat _ 4 (by decide), shift_toNat _ 4 (by decide), number]
    simp only [UInt32.reduceToNat]
    omega
  have whole : crc >>> 4 >>> 4 = crc >>> 8 := by
    apply UInt32.toNat_inj.mp
    rw [shift_toNat _ 4 (by decide), shift_toNat _ 4 (by decide), shift_toNat _ 8 (by decide)]
    simp only [UInt32.reduceToNat]
    omega
  have none : lfsCrcTable.getD (0 : UInt32).toNat 0 = 0 := rfl
  rw [lfsCrc, List.foldl_cons, List.foldl_nil]
  dsimp only
  rw [first, none, UInt32.xor_zero, second, none, UInt32.xor_zero, whole]

-- Behind its own bytes a CRC is 0.
theorem crc_own (crc : UInt32) : lfsCrc crc (lfsTole32 crc) = 0 := by
  have shifted (word first second both : UInt32) (small : first.toNat + second.toNat < 32) (sum : both.toNat = first.toNat + second.toNat) :
      word >>> first >>> second = word >>> both := by
    apply UInt32.toNat_inj.mp
    rw [shift_toNat _ second (by omega), shift_toNat _ first (by omega), shift_toNat _ both (by omega), sum, Nat.div_div_eq_div_mul, Nat.pow_add]
  have two := shifted crc 8 8 16 (by decide) rfl
  have three := shifted crc 16 8 24 (by decide) rfl
  have parts : lfsTole32 crc = [crc.toUInt8] ++ ([(crc >>> 8).toUInt8] ++ ([(crc >>> 16).toUInt8] ++ [(crc >>> 24).toUInt8])) := rfl
  rw [parts, ← crc_append, ← crc_append, ← crc_append, crc_own_byte crc _ rfl, crc_own_byte (crc >>> 8) _ rfl, two, crc_own_byte (crc >>> 16) _ rfl,
    three, crc_own_byte (crc >>> 24) _ rfl]
  apply UInt32.toNat_inj.mp
  have small := crc.toNat_lt
  rw [shift_toNat _ 8 (by decide), shift_toNat _ 24 (by decide)]
  simp only [UInt32.reduceToNat]
  omega

end SDCardFs.Littlefs

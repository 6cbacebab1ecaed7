import SDCardFs.Lib.BigEndian
import SDCardFs.Littlefs.Log
import SDCardFs.Littlefs.Words

set_option autoImplicit false

namespace SDCardFs.Littlefs

-- The fields of a tag as parts of a number.
theorem word_field (tag mask : UInt32) (low width : Nat) (known : mask.toNat = (2 ^ width - 1) * 2 ^ low) :
    (tag &&& mask).toNat = tag.toNat / 2 ^ low % 2 ^ width * 2 ^ low := by
  rw [UInt32.toNat_and, known, Lib.and_field]

theorem tag_size_toNat (tag : UInt32) : (lfsTagSize tag).toNat = tag.toNat % 1024 := by
  rw [lfsTagSize, word_field tag 0x3ff 0 10 rfl]
  omega

theorem tag_id_toNat (tag : UInt32) : (lfsTagId tag).toNat = tag.toNat / 1024 % 1024 := by
  have ten : (10 : UInt32).toNat % 32 = 10 := rfl
  rw [lfsTagId, UInt32.toNat_shiftRight, word_field tag 0xffc00 10 10 rfl, ten, Nat.shiftRight_eq_div_pow, Nat.mul_div_cancel _ (by decide)]
  rfl

theorem tag_chunk_toNat (tag : UInt32) : (lfsTagChunk tag).toNat = tag.toNat / 2 ^ 20 % 256 := by
  have twenty : (20 : UInt32).toNat % 32 = 20 := rfl
  rw [lfsTagChunk, UInt32.toNat_shiftRight, word_field tag 0x0ff00000 20 8 rfl, twenty, Nat.shiftRight_eq_div_pow,
    Nat.mul_div_cancel _ (by decide)]
  rfl

theorem tag_type3_toNat (tag : UInt32) : (lfsTagType3 tag).toNat = tag.toNat / 2 ^ 20 % 2048 := by
  have twenty : (20 : UInt32).toNat % 32 = 20 := rfl
  rw [lfsTagType3, UInt32.toNat_shiftRight, word_field tag 0x7ff00000 20 11 rfl, twenty, Nat.shiftRight_eq_div_pow,
    Nat.mul_div_cancel _ (by decide)]
  rfl

theorem tag_type1_toNat (tag : UInt32) : (lfsTagType1 tag).toNat = tag.toNat / 2 ^ 28 % 8 * 256 := by
  have twenty : (20 : UInt32).toNat % 32 = 20 := rfl
  have split : 2 ^ 28 = 256 * 2 ^ 20 := rfl
  rw [lfsTagType1, UInt32.toNat_shiftRight, word_field tag 0x70000000 28 3 rfl, twenty, Nat.shiftRight_eq_div_pow, split, ← Nat.mul_assoc,
    Nat.mul_div_cancel _ (by decide)]
  rfl

theorem tag_valid_iff (tag : UInt32) : lfsTagIsvalid tag = true ↔ tag.toNat < 2 ^ 31 := by
  have small := tag.toNat_lt
  have top := word_field tag 0x80000000 31 1 rfl
  rw [lfsTagIsvalid, decide_eq_true_iff, ← UInt32.toNat_inj, top, UInt32.toNat_zero]
  omega

-- The sign of the ten bits, pushed to the top and back.
theorem tag_delete_iff (tag : UInt32) : lfsTagIsdelete tag = true ↔ tag.toNat % 1024 = 1023 := by
  have shift : (22 : UInt32).toNat % 32 = 22 := rfl
  have up : (tag <<< 22).toNat = tag.toNat % 1024 * 4194304 := by
    rw [UInt32.toNat_shiftLeft, shift, Nat.shiftLeft_eq]
    omega
  have down : ((tag <<< 22).toInt32 >>> 22).toInt = (tag <<< 22).toInt32.toInt >>> (22 : Nat) := by
    have steps : ((22 : Int32).toBitVec.smod 32).toNat = 22 := by decide
    rw [← Int32.toInt_toBitVec, Int32.toBitVec_shiftRight, BitVec.toInt_sshiftRight', steps, Int32.toInt_toBitVec]
  have signed : (tag <<< 22).toInt32.toInt =
      if 2 * (tag <<< 22).toNat < 2 ^ 32 then ((tag <<< 22).toNat : Int) else ((tag <<< 22).toNat : Int) - (2 ^ 32 : Nat) := by
    rw [← Int32.toInt_toBitVec, UInt32.toBitVec_toInt32, BitVec.toInt_eq_toNat_cond, UInt32.toNat_toBitVec]
  have one : (-1 : Int32).toInt = -1 := rfl
  rw [lfsTagIsdelete, decide_eq_true_iff, ← Int32.toInt_inj, down, signed, up, one, Int.shiftRight_eq_div_pow]
  have size : tag.toNat % 1024 < 1024 := Nat.mod_lt _ (by decide)
  have pow : ((2 ^ 22 : Nat) : Int) = 4194304 := rfl
  have some : (4194304 : Int) ≠ 0 := by decide
  rw [pow]
  generalize tag.toNat % 1024 = n at size ⊢
  split
  · rw [Int.natCast_mul]
    refine (iff_of_eq (congrArg (fun q : Int => q = -1) (Int.mul_ediv_cancel _ some))).trans ?_
    omega
  · have whole : ((n * 4194304 : Nat) : Int) - (2 ^ 32 : Nat) = ((n : Int) - 1024) * 4194304 := by
      rw [Int.natCast_mul, Int.sub_mul]
      rfl
    rw [whole, Int.mul_ediv_cancel _ some]
    omega

theorem tag_dsize_toNat (tag : UInt32) : (lfsTagDsize tag).toNat = 4 + if tag.toNat % 1024 = 1023 then 0 else tag.toNat % 1024 := by
  have small := tag.toNat_lt
  by_cases deleted : tag.toNat % 1024 = 1023
  · rw [lfsTagDsize, if_pos ((tag_delete_iff tag).mpr deleted), if_pos deleted, UInt32.toNat_add, tag_size_toNat, UInt32.toNat_add]
    simp only [UInt32.reduceToNat]
    omega
  · rw [lfsTagDsize, if_neg (fun set => deleted ((tag_delete_iff tag).mp set)), if_neg deleted, UInt32.toNat_add, tag_size_toNat, UInt32.toNat_add]
    simp only [UInt32.reduceToNat]
    omega

-- Only the top bit of a tag is changed by what its CRC tag says of the next
-- commit, and no field is in it.
theorem next_ptag_low (tag : UInt32) : (nextPtag tag).toNat % 2 ^ 31 = tag.toNat % 2 ^ 31 := by
  have shift : (31 : UInt32).toNat % 32 = 31 := rfl
  rw [nextPtag, UInt32.toNat_xor, Nat.xor_mod_two_pow, UInt32.toNat_shiftLeft, shift, Nat.shiftLeft_eq]
  have none : (lfsTagChunk tag &&& 1).toNat * 2 ^ 31 % 2 ^ 32 % 2 ^ 31 = 0 := by omega
  rw [none, Nat.xor_zero]

theorem mktag_toNat (type id size : UInt32) (typeSmall : type.toNat < 2 ^ 11) (idSmall : id.toNat < 2 ^ 10) (sizeSmall : size.toNat < 2 ^ 10) :
    (lfsMktag type id size).toNat = type.toNat * 2 ^ 20 + id.toNat * 2 ^ 10 + size.toNat := by
  have twenty : (20 : UInt32).toNat % 32 = 20 := rfl
  have ten : (10 : UInt32).toNat % 32 = 10 := rfl
  have high : (type <<< 20).toNat = type.toNat * 2 ^ 20 := by
    rw [UInt32.toNat_shiftLeft, twenty, Nat.shiftLeft_eq]
    omega
  have middle : (id <<< 10).toNat = id.toNat * 2 ^ 10 := by
    rw [UInt32.toNat_shiftLeft, ten, Nat.shiftLeft_eq]
    omega
  have upper : id.toNat * 2 ^ 10 + type.toNat * 2 ^ 20 = (id.toNat + type.toNat * 2 ^ 10) * 2 ^ 10 := by omega
  rw [lfsMktag, UInt32.toNat_or, UInt32.toNat_or, high, middle, Nat.or_comm (type.toNat * 2 ^ 20), or_bytes _ _ 20 (by omega), upper,
    Nat.or_comm, or_bytes _ _ 10 sizeSmall]
  omega

theorem mktag_fields (type id size : UInt32) (typeSmall : type.toNat < 2 ^ 11) (idSmall : id.toNat < 2 ^ 10) (sizeSmall : size.toNat < 2 ^ 10) :
    lfsTagType3 (lfsMktag type id size) = type ∧ lfsTagId (lfsMktag type id size) = id ∧ lfsTagSize (lfsMktag type id size) = size := by
  have number := mktag_toNat type id size typeSmall idSmall sizeSmall
  refine ⟨?_, ?_, ?_⟩
  · apply UInt32.toNat_inj.mp
    rw [tag_type3_toNat, number]
    omega
  · apply UInt32.toNat_inj.mp
    rw [tag_id_toNat, number]
    omega
  · apply UInt32.toNat_inj.mp
    rw [tag_size_toNat, number]
    omega

theorem type3_small (tag : UInt32) : (lfsTagType3 tag).toNat < 2 ^ 11 := by
  rw [tag_type3_toNat]
  exact Nat.mod_lt _ (by decide)

theorem id_small (tag : UInt32) : (lfsTagId tag).toNat < 2 ^ 10 := by
  rw [tag_id_toNat]
  exact Nat.mod_lt _ (by decide)

theorem size_small (tag : UInt32) : (lfsTagSize tag).toNat < 2 ^ 10 := by
  rw [tag_size_toNat]
  exact Nat.mod_lt _ (by decide)

theorem tag_fields (tag : UInt32) (valid : lfsTagIsvalid tag = true) : lfsMktag (lfsTagType3 tag) (lfsTagId tag) (lfsTagSize tag) = tag := by
  have small := (tag_valid_iff tag).mp valid
  apply UInt32.toNat_inj.mp
  rw [mktag_toNat _ _ _ (type3_small tag) (id_small tag) (size_small tag), tag_type3_toNat, tag_id_toNat, tag_size_toNat]
  omega

-- What a mask leaves of a tag, field by field.
theorem mask_tag (tmask imask tag : UInt32) (typeSmall : tmask.toNat < 2 ^ 11) (idSmall : imask.toNat < 2 ^ 10) :
    lfsMktag tmask imask 0 &&& tag = lfsMktag (tmask &&& lfsTagType3 tag) (imask &&& lfsTagId tag) 0 := by
  have twenty : (20 : UInt32).toNat % 32 = 20 := rfl
  have ten : (10 : UInt32).toNat % 32 = 10 := rfl
  have type : (tmask <<< 20) &&& tag = (tmask &&& lfsTagType3 tag) <<< 20 := by
    have part : tmask.toNat * 2 ^ 20 &&& tag.toNat = (tmask.toNat &&& tag.toNat / 2 ^ 20 % 2048) * 2 ^ 20 := Lib.and_shifted _ _ 20 11 typeSmall
    have few : tmask.toNat &&& tag.toNat / 2 ^ 20 % 2048 < 2 ^ 11 := Nat.lt_of_le_of_lt Nat.and_le_left typeSmall
    apply UInt32.toNat_inj.mp
    rw [UInt32.toNat_and, UInt32.toNat_shiftLeft, UInt32.toNat_shiftLeft, UInt32.toNat_and, tag_type3_toNat, twenty, Nat.shiftLeft_eq,
      Nat.shiftLeft_eq, Nat.mod_eq_of_lt (by omega), Nat.mod_eq_of_lt (by omega), part]
  have id : (imask <<< 10) &&& tag = (imask &&& lfsTagId tag) <<< 10 := by
    have part : imask.toNat * 2 ^ 10 &&& tag.toNat = (imask.toNat &&& tag.toNat / 1024 % 1024) * 2 ^ 10 := Lib.and_shifted _ _ 10 10 idSmall
    have few : imask.toNat &&& tag.toNat / 1024 % 1024 < 2 ^ 10 := Nat.lt_of_le_of_lt Nat.and_le_left idSmall
    apply UInt32.toNat_inj.mp
    rw [UInt32.toNat_and, UInt32.toNat_shiftLeft, UInt32.toNat_shiftLeft, UInt32.toNat_and, tag_id_toNat, ten, Nat.shiftLeft_eq,
      Nat.shiftLeft_eq, Nat.mod_eq_of_lt (by omega), Nat.mod_eq_of_lt (by omega), part]
  rw [lfsMktag, lfsMktag, ← type, ← id]
  apply UInt32.toNat_inj.mp
  simp only [UInt32.toNat_and, UInt32.toNat_or, UInt32.toNat_zero, Nat.or_zero, Nat.and_or_distrib_right]

theorem masked_eq_iff (tmask imask first second : UInt32) (typeSmall : tmask.toNat < 2 ^ 11) (idSmall : imask.toNat < 2 ^ 10) :
    lfsMktag tmask imask 0 &&& first = lfsMktag tmask imask 0 &&& second ↔
      tmask &&& lfsTagType3 first = tmask &&& lfsTagType3 second ∧ imask &&& lfsTagId first = imask &&& lfsTagId second := by
  have type (tag : UInt32) : (tmask &&& lfsTagType3 tag).toNat < 2 ^ 11 := by
    rw [UInt32.toNat_and]
    exact Nat.lt_of_le_of_lt Nat.and_le_left typeSmall
  have id (tag : UInt32) : (imask &&& lfsTagId tag).toNat < 2 ^ 10 := by
    rw [UInt32.toNat_and]
    exact Nat.lt_of_le_of_lt Nat.and_le_left idSmall
  rw [mask_tag _ _ _ typeSmall idSmall, mask_tag _ _ _ typeSmall idSmall]
  constructor
  · intro same
    obtain ⟨firstType, firstId, -⟩ := mktag_fields _ _ 0 (type first) (id first) (by decide)
    obtain ⟨secondType, secondId, -⟩ := mktag_fields _ _ 0 (type second) (id second) (by decide)
    rw [same] at firstType firstId
    exact ⟨firstType.symm.trans secondType, firstId.symm.trans secondId⟩
  · rintro ⟨sameType, sameId⟩
    rw [sameType, sameId]

end SDCardFs.Littlefs

import Mathlib.Tactic.Ring
import SDCardFs.Littlefs.Coherent
import SDCardFs.Littlefs.CtzBits
import SDCardFs.Littlefs.Stale

set_option autoImplicit false

namespace SDCardFs.Littlefs

-- The words at the start of a block of a file that lead to blocks before it.
def pointerWords (index : Nat) : Nat := if index = 0 then 0 else Lib.trailing index + 1

def ctzRoom (size index : Nat) : Nat := size - 4 * pointerWords index

-- The position in the file of the first byte of a block's data.
def ctzStart (size : Nat) : Nat → Nat
  | 0 => 0
  | index + 1 => ctzStart size index + ctzRoom size index

theorem trailing_lt (index width : Nat) (positive : 0 < index) (small : index < 2 ^ width) : Lib.trailing index < width := by
  rw [← Nat.pow_lt_pow_iff_right (a := 2) (by decide)]
  exact Nat.lt_of_le_of_lt (Lib.trailing_pow_le _ positive) small

theorem pointer_words_le (index width : Nat) (small : index < 2 ^ width) : pointerWords index ≤ width := by
  rw [pointerWords]
  split
  · exact Nat.zero_le _
  · exact trailing_lt index width (by omega) small

-- Where the pointers fit into a block, the data of the blocks before one is all
-- of their bytes but two words a block and a word a carry.
theorem ctz_start_closed (size width : Nat) (room : 4 * width + 8 ≤ size) (index : Nat) (small : index < 2 ^ width) :
    ctzStart size (index + 1) = (size - 8) * (index + 1) + 8 + 4 * Lib.ones index := by
  induction index with
  | zero =>
      simp only [ctzStart, ctzRoom, pointerWords, ↓reduceIte, Lib.ones_zero]
      omega
  | succ index ih =>
      have carried := Lib.ones_succ index
      have few := pointer_words_le (index + 1) width small
      have pointers : pointerWords (index + 1) = Lib.trailing (index + 1) + 1 := if_neg (Nat.succ_ne_zero index)
      have next : (size - 8) * (index + 1 + 1) = (size - 8) * (index + 1) + (size - 8) := Nat.mul_succ _ _
      rw [ctzStart, ih (by omega), ctzRoom, next, pointers]
      omega

theorem ctz_start_mono (size : Nat) (less more : Nat) (order : less ≤ more) : ctzStart size less ≤ ctzStart size more := by
  induction more with
  | zero =>
      have none : less = 0 := by omega
      rw [none]
  | succ more ih =>
      by_cases same : less = more + 1
      · rw [same]
      · exact Nat.le_trans (ih (by omega)) (Nat.le_add_right _ _)

-- The block a position is in.
def InBlock (size index pos : Nat) : Prop := ctzStart size index ≤ pos ∧ pos < ctzStart size (index + 1)

theorem in_block_unique {size pos left right : Nat} (first : InBlock size left pos) (second : InBlock size right pos) : left = right := by
  obtain ⟨leftLeast, leftMost⟩ := first
  obtain ⟨rightLeast, rightMost⟩ := second
  by_contra different
  rcases Nat.lt_or_gt_of_ne different with less | more
  · exact absurd (ctz_start_mono size (left + 1) right less) (by omega)
  · exact absurd (ctz_start_mono size (right + 1) left more) (by omega)

-- The division of lfs_ctz_index, with the carries of one block less than the
-- ones it counts.
theorem index_division (room carries : Nat) (pos index guess : Nat) (wide : 8 + 4 * carries ≤ room) (few : Lib.ones index ≤ carries)
    (least : index = 0 ∨ room * index + 8 + 4 * Lib.ones (index - 1) ≤ pos) (most : pos < room * (index + 1) + 8 + 4 * Lib.ones index)
    (guessed : guess = pos / room) (some : guess ≠ 0) : (pos - 4 * (Lib.ones (guess - 1) + 2)) / room = index := by
  have positive : 0 < room := by omega
  have next : room * (index + 1) = room * index + room := Nat.mul_succ _ _
  have after : room * (index + 1 + 1) = room * index + room + room := by rw [Nat.mul_succ, next]
  have near : guess = index ∨ guess = index + 1 := by
    have upper : guess < index + 1 + 1 := by
      rw [guessed, Nat.div_lt_iff_lt_mul positive, Nat.mul_comm]
      omega
    have lower : index ≤ guess := by
      rw [guessed, Nat.le_div_iff_mul_le positive, Nat.mul_comm]
      rcases least with zero | least
      · rw [zero, Nat.mul_zero]
        exact Nat.zero_le _
      · omega
    omega
  rcases near with same | more
  · have lower : room * index + 8 + 4 * Lib.ones (index - 1) ≤ pos := least.resolve_left fun zero => some (same.trans zero)
    have below : pos < room * (index + 1) := by
      have bound := Nat.lt_mul_div_succ pos positive
      rwa [← guessed, same] at bound
    rw [same, Nat.div_eq_iff positive, Nat.mul_comm index]
    omega
  · have reached : room * (index + 1) ≤ pos := by
      have bound := Nat.mul_div_le pos room
      rwa [← guessed, more] at bound
    rw [more, Nat.add_sub_cancel, Nat.div_eq_iff positive, Nat.mul_comm index]
    omega

section
variable (cfg : Config) (large : 128 ≤ cfg.blockSize.toNat)
include large

theorem room_toNat : (cfg.blockSize - 2 * 4).toNat = cfg.blockSize.toNat - 8 :=
  UInt32.toNat_sub_of_le _ _ (UInt32.le_iff_toNat_le.mpr (Nat.le_trans (by decide) large))

theorem quotient_small (pos : UInt32) : pos.toNat / (cfg.blockSize.toNat - 8) < 2 ^ 26 := by
  have small := pos.toNat_lt
  rw [Nat.div_lt_iff_lt_mul (by omega)]
  calc pos.toNat < 2 ^ 26 * 64 := small
    _ ≤ 2 ^ 26 * (cfg.blockSize.toNat - 8) := Nat.mul_le_mul_left _ (by omega)

theorem block_index_small (pos : UInt32) (index : Nat) (inside : InBlock cfg.blockSize.toNat index pos.toNat) : index < 2 ^ 26 := by
  by_contra big
  have start := ctz_start_mono cfg.blockSize.toNat (2 ^ 26 - 1 + 1) index (by omega)
  rw [ctz_start_closed cfg.blockSize.toNat 26 (by omega) _ (by decide)] at start
  have wide : 120 * 2 ^ 26 ≤ (cfg.blockSize.toNat - 8) * (2 ^ 26 - 1 + 1) := Nat.mul_le_mul_right _ (by omega)
  have small := pos.toNat_lt
  have least := inside.1
  omega

-- lfs_ctz_index is the block of the position, at every position of 32 bits.
theorem ctz_index_block (pos : UInt32) (index : Nat) (inside : InBlock cfg.blockSize.toNat index pos.toNat) :
    (lfsCtzIndex cfg pos).toNat = index := by
  have small := block_index_small cfg large pos index inside
  have room := room_toNat cfg large
  have quotient := quotient_small cfg large pos
  obtain ⟨least, most⟩ := inside
  rw [ctz_start_closed cfg.blockSize.toNat 26 (by omega) _ small] at most
  have guess : (pos / (cfg.blockSize - 2 * 4)).toNat = pos.toNat / (cfg.blockSize.toNat - 8) := by rw [UInt32.toNat_div, room]
  have lower : index = 0 ∨ (cfg.blockSize.toNat - 8) * index + 8 + 4 * Lib.ones (index - 1) ≤ pos.toNat := by
    cases index with
    | zero => exact Or.inl rfl
    | succ index =>
        right
        rwa [ctz_start_closed cfg.blockSize.toNat 26 (by omega) _ (by omega)] at least
  rw [lfsCtzIndex]
  by_cases zero : pos / (cfg.blockSize - 2 * 4) = 0
  · rw [if_pos zero, UInt32.toNat_zero]
    rw [zero, UInt32.toNat_zero] at guess
    rcases lower with first | lower
    · exact first.symm
    · have below : pos.toNat < cfg.blockSize.toNat - 8 := Nat.lt_of_div_eq_zero (by omega) guess.symm
      cases index with
      | zero => rfl
      | succ index =>
          rw [Nat.mul_succ] at lower
          omega
  · have some : pos.toNat / (cfg.blockSize.toNat - 8) ≠ 0 := fun none => zero (UInt32.toNat_inj.mp (guess.trans none))
    have before : (pos / (cfg.blockSize - 2 * 4) - 1).toNat = pos.toNat / (cfg.blockSize.toNat - 8) - 1 := by
      rw [UInt32.toNat_sub_of_le _ _ (UInt32.le_iff_toNat_le.mpr (by rw [guess]; exact Nat.pos_iff_ne_zero.mpr some)), guess]
      rfl
    have few := Lib.ones_le 26 (pos.toNat / (cfg.blockSize.toNat - 8) - 1) (by omega)
    have divided := index_division _ 26 pos.toNat index _ (by omega) (Lib.ones_le 26 index small) lower most rfl some
    have reached : cfg.blockSize.toNat - 8 ≤ pos.toNat := by
      by_contra short
      exact some (Nat.div_eq_of_lt (by omega))
    have carries : (4 * (lfsPopc (pos / (cfg.blockSize - 2 * 4) - 1) + 2)).toNat =
        4 * (Lib.ones (pos.toNat / (cfg.blockSize.toNat - 8) - 1) + 2) := by
      rw [UInt32.toNat_mul, UInt32.toNat_add, lfs_popc_toNat, before]
      simp only [UInt32.reduceToNat]
      omega
    rw [if_neg zero, UInt32.toNat_div, room, UInt32.toNat_sub_of_le _ _ (UInt32.le_iff_toNat_le.mpr (by rw [carries]; omega)), carries]
    exact divided

theorem exists_block (pos : UInt32) : ∃ index, InBlock cfg.blockSize.toNat index pos.toNat := by
  have wide : ∃ index, pos.toNat < ctzStart cfg.blockSize.toNat (index + 1) := by
    refine ⟨2 ^ 26 - 1, ?_⟩
    rw [ctz_start_closed cfg.blockSize.toNat 26 (by omega) _ (by decide)]
    have small := pos.toNat_lt
    have wide : 120 * 2 ^ 26 ≤ (cfg.blockSize.toNat - 8) * (2 ^ 26 - 1 + 1) := Nat.mul_le_mul_right _ (by omega)
    omega
  refine ⟨Nat.find wide, ?_, Nat.find_spec wide⟩
  cases first : Nat.find wide with
  | zero => exact Nat.zero_le _
  | succ index =>
      have earlier := Nat.find_min wide (m := index) (by omega)
      omega

theorem ctz_index_inside (pos : UInt32) : InBlock cfg.blockSize.toNat (lfsCtzIndex cfg pos).toNat pos.toNat := by
  obtain ⟨index, inside⟩ := exists_block cfg large pos
  rwa [ctz_index_block cfg large pos index inside]

theorem ctz_off_block (pos : UInt32) (index : Nat) (inside : InBlock cfg.blockSize.toNat index pos.toNat) :
    (lfsCtzOff cfg pos).toNat = 4 * pointerWords index + (pos.toNat - ctzStart cfg.blockSize.toNat index) := by
  have known := ctz_index_block cfg large pos index inside
  have small := block_index_small cfg large pos index inside
  have room := room_toNat cfg large
  obtain ⟨least, most⟩ := inside
  rw [lfsCtzOff]
  by_cases zero : pos / (cfg.blockSize - 2 * 4) = 0
  · have first : index = 0 := by
      rw [lfsCtzIndex, if_pos zero] at known
      exact known.symm
    rw [if_pos zero, first]
    simp [pointerWords, ctzStart]
  · have few := Lib.ones_le 26 index small
    have carries : (4 * lfsPopc (lfsCtzIndex cfg pos)).toNat = 4 * Lib.ones index := by
      rw [UInt32.toNat_mul, lfs_popc_toNat, known]
      simp only [UInt32.reduceToNat]
      omega
    have enough : (cfg.blockSize.toNat - 8) * index + 4 * Lib.ones index ≤ pos.toNat ∧
        pos.toNat - (cfg.blockSize.toNat - 8) * index - 4 * Lib.ones index =
          4 * pointerWords index + (pos.toNat - ctzStart cfg.blockSize.toNat index) := by
      cases index with
      | zero => simp [pointerWords, ctzStart]
      | succ index =>
          have carried := Lib.ones_succ index
          have pointers : pointerWords (index + 1) = Lib.trailing (index + 1) + 1 := if_neg (Nat.succ_ne_zero index)
          rw [ctz_start_closed cfg.blockSize.toNat 26 (by omega) _ (by omega)] at least ⊢
          rw [pointers]
          omega
    have product : ((cfg.blockSize - 2 * 4) * lfsCtzIndex cfg pos).toNat = (cfg.blockSize.toNat - 8) * index := by
      have bound := pos.toNat_lt
      rw [UInt32.toNat_mul, room, known]
      exact Nat.mod_eq_of_lt (by omega)
    have fits : (cfg.blockSize - 2 * 4) * lfsCtzIndex cfg pos ≤ pos := by
      rw [UInt32.le_iff_toNat_le, product]
      omega
    have left : (pos - (cfg.blockSize - 2 * 4) * lfsCtzIndex cfg pos).toNat = pos.toNat - (cfg.blockSize.toNat - 8) * index := by
      rw [UInt32.toNat_sub_of_le _ _ fits, product]
    have carriesFit : 4 * lfsPopc (lfsCtzIndex cfg pos) ≤ pos - (cfg.blockSize - 2 * 4) * lfsCtzIndex cfg pos := by
      rw [UInt32.le_iff_toNat_le, left, carries]
      omega
    rw [if_neg zero, UInt32.toNat_sub_of_le _ _ carriesFit, left, carries]
    exact enough.2

-- A block number and an offset are those of a position if and only if the
-- position is the start of the block's data and as far on as the offset is
-- behind the pointers.
theorem ctz_layout_exact (pos : UInt32) (index off : Nat) :
    (lfsCtzIndex cfg pos).toNat = index ∧ (lfsCtzOff cfg pos).toNat = off ↔
      pos.toNat + 4 * pointerWords index = ctzStart cfg.blockSize.toNat index + off ∧ 4 * pointerWords index ≤ off ∧ off < cfg.blockSize.toNat := by
  have inside := ctz_index_inside cfg large pos
  have known := ctz_off_block cfg large pos _ inside
  constructor
  · rintro ⟨rfl, rfl⟩
    have few := pointer_words_le _ 26 (block_index_small cfg large pos _ inside)
    obtain ⟨least, most⟩ := inside
    rw [ctzStart, ctzRoom] at most
    rw [known]
    omega
  · rintro ⟨same, least, most⟩
    have there : InBlock cfg.blockSize.toNat index pos.toNat := by
      refine ⟨by omega, ?_⟩
      rw [ctzStart, ctzRoom]
      omega
    obtain rfl := in_block_unique there inside
    exact ⟨rfl, by omega⟩

end

-- Where the blocks of a file start on pages of 512 bytes: the second block has
-- one pointer, the third has two.
theorem page_starts : pointerWords 1 = 1 ∧ ctzStart 512 1 = 512 ∧ ctzStart 512 2 = 1020 ∧ ctzStart 512 3 = 1524 := by
  have odd : Lib.trailing 1 = 0 := Lib.trailing_odd 0
  simp [pointerWords, ctzStart, ctzRoom, odd]

theorem second_page_layout : (lfsCtzIndex pageConfig 600).toNat = 1 ∧ (lfsCtzOff pageConfig 600).toNat = 92 := by
  obtain ⟨words, start, -⟩ := page_starts
  have room : 128 ≤ pageConfig.blockSize.toNat := by decide
  have page : pageConfig.blockSize.toNat = 512 := rfl
  refine (ctz_layout_exact pageConfig room 600 1 92).mpr ?_
  rw [words, page, start]
  decide

end SDCardFs.Littlefs

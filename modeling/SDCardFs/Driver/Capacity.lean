import SDCardFs.Lib.BigEndian
import SDCardFs.Driver.Accepting
import SDCardFs.Driver.Init

set_option autoImplicit false

namespace SDCardFs.Driver

-- One turn of the loop in ext_bits.
def extBit (data : List UInt8) (lsb i : Nat) : UInt32 :=
  ((data.getD (15 - ((lsb + i) >>> 3)) 0).toUInt32 >>> UInt32.ofNat ((lsb + i) &&& 0x7)) &&& 1

theorem ext_bit_value (data : List UInt8) (lsb i : Nat) (whole : data.length = 16) (inside : lsb + i < 128) :
    (extBit data lsb i).toNat = ((Lib.bigEndian data).testBit (lsb + i)).toNat := by
  have low : (lsb + i) &&& 7 = (lsb + i) % 8 := Nat.and_two_pow_sub_one_eq_mod (lsb + i) 3
  have byte : (lsb + i) >>> 3 = (lsb + i) / 8 := Nat.shiftRight_eq_div_pow _ 3
  have small : (lsb + i) % 8 < 8 := Nat.mod_lt _ (by decide)
  have amount : ((lsb + i) % 8) % 2 ^ 32 % 32 = (lsb + i) % 8 := by omega
  rw [Lib.big_endian_bit data _ (by omega), whole, extBit, low, byte, UInt32.toNat_and, UInt32.toNat_shiftRight, UInt32.toNat_ofNat',
    amount, UInt8.toNat_toUInt32]
  rw [Nat.toNat_testBit, Nat.shiftRight_eq_div_pow]
  exact Nat.and_one_is_mod _

theorem ext_bits_loop (data : List UInt8) (lsb count : Nat) (whole : data.length = 16) (inside : lsb + count ≤ 128) (narrow : count ≤ 32)
    (j : Nat) : ((List.range count).foldl (fun bits i => bits ||| (extBit data lsb i <<< UInt32.ofNat i)) 0).toNat.testBit j =
      (decide (j < count) && (Lib.bigEndian data).testBit (lsb + j)) := by
  induction count with
  | zero => simp
  | succ count ih =>
      have amount : count % 2 ^ 32 % 32 = count := by omega
      have kept : (extBit data lsb count).toNat <<< count < 2 ^ 32 := by
        have bit := Bool.toNat_le ((Lib.bigEndian data).testBit (lsb + count))
        rw [ext_bit_value data lsb count whole (by omega), Nat.shiftLeft_eq]
        calc ((Lib.bigEndian data).testBit (lsb + count)).toNat * 2 ^ count ≤ 1 * 2 ^ count := Nat.mul_le_mul_right _ bit
          _ < 2 ^ 32 := by rw [Nat.one_mul]; exact Nat.pow_lt_pow_right (by decide) (by omega)
      have last : (extBit data lsb count <<< UInt32.ofNat count).toNat.testBit j =
          (decide (j = count) && (Lib.bigEndian data).testBit (lsb + count)) := by
        rw [UInt32.toNat_shiftLeft, UInt32.toNat_ofNat', amount, Nat.mod_eq_of_lt kept, ext_bit_value data lsb count whole (by omega),
          Nat.testBit_shiftLeft]
        cases (Lib.bigEndian data).testBit (lsb + count) with
        | false => simp
        | true =>
            have one : Nat.testBit 1 (j - count) = decide (0 = j - count) := @Nat.testBit_two_pow 0 (j - count)
            rw [Bool.toNat_true, one, Bool.and_true]
            by_cases reached : j ≥ count
            · simp only [reached, decide_true, Bool.true_and, decide_eq_decide]
              omega
            · simp only [reached, decide_false, Bool.false_and, Bool.false_eq, decide_eq_false_iff_not]
              omega
      rw [List.range_succ, List.foldl_append, List.foldl_cons, List.foldl_nil, UInt32.toNat_or, Nat.testBit_or,
        ih (by omega) (by omega), last]
      by_cases current : j = count
      · subst current
        simp
      · simp only [current, decide_false, Bool.false_and, Bool.or_false]
        congr 1
        exact decide_eq_decide.mpr (by omega)

-- The bits msb to lsb of the register, read as one 128-bit number.
def csdField (csd : List UInt8) (msb lsb : Nat) : Nat := Lib.bigEndian csd / 2 ^ lsb % 2 ^ (1 + msb - lsb)

theorem ext_bits_field (csd : List UInt8) (msb lsb : Nat) (whole : csd.length = 16) (inside : msb < 128) (ordered : lsb ≤ msb)
    (narrow : msb - lsb < 32) : (extBits csd msb lsb).toNat = csdField csd msb lsb :=
  Lib.field_of_bits _ _ lsb _ (ext_bits_loop csd lsb (1 + msb - lsb) whole (by omega) (by omega))

theorem csd_field_lt (csd : List UInt8) (msb lsb : Nat) : csdField csd msb lsb < 2 ^ (1 + msb - lsb) :=
  Nat.mod_lt _ (Nat.two_pow_pos _)

-- What the fields of the register say of the card.
def cardSectors (csd : List UInt8) : Nat :=
  if csdField csd 127 126 = 0 then (csdField csd 73 62 + 1) * 2 ^ (csdField csd 49 47 + 2) * 2 ^ csdField csd 83 80 / 512
  else (csdField csd 69 48 + 1) * 1024

def cardEraseSize (csd : List UInt8) : Nat :=
  if csdField csd 46 46 = 1 then 512 else 512 * (csdField csd 45 39 + 1)

theorem shifted_one (amount : UInt32) (narrow : amount.toNat < 32) : ((1 : UInt32) <<< amount).toNat = 2 ^ amount.toNat := by
  have power : 2 ^ amount.toNat < 2 ^ 32 := Nat.pow_lt_pow_right (by decide) narrow
  rw [UInt32.toNat_shiftLeft, Nat.mod_eq_of_lt narrow, UInt32.toNat_one, Nat.one_shiftLeft, Nat.mod_eq_of_lt power]

theorem erase_size_field (csd : List UInt8) (whole : csd.length = 16) :
    (if extBits csd 46 46 ≠ 0 then blockSize else blockSize * (extBits csd 45 39 + 1)).toNat = cardEraseSize csd := by
  have enable := ext_bits_field csd 46 46 whole (by decide) (by decide) (by decide)
  have sector := ext_bits_field csd 45 39 whole (by decide) (by decide) (by decide)
  have enableSmall := csd_field_lt csd 46 46
  have sectorSmall := csd_field_lt csd 45 39
  have one : extBits csd 46 46 ≠ 0 ↔ csdField csd 46 46 = 1 := by
    rw [ne_eq, ← UInt32.toNat_inj, enable, UInt32.toNat_zero]
    omega
  rw [cardEraseSize]
  by_cases enabled : csdField csd 46 46 = 1
  · rw [if_pos enabled, if_pos (one.mpr enabled)]
    rfl
  · rw [if_neg enabled, if_neg fun set => enabled (one.mp set), UInt32.toNat_mul, UInt32.toNat_add, sector]
    simp only [blockSize, UInt32.reduceToNat]
    omega

theorem csd_structure_is (csd : List UInt8) (whole : csd.length = 16) (version : UInt32) :
    extBits csd 127 126 = version ↔ csdField csd 127 126 = version.toNat := by
  rw [← UInt32.toNat_inj, ext_bits_field csd 127 126 whole (by decide) (by decide) (by decide)]

theorem csd_sectors_standard (csd : List UInt8) (whole : csd.length = 16) (version : csdField csd 127 126 = 0) :
    ∃ blocks eraseSize, csdSectors csd = some (blocks, eraseSize) ∧ blocks.toNat = cardSectors csd ∧ eraseSize.toNat = cardEraseSize csd := by
  have size := ext_bits_field csd 73 62 whole (by decide) (by decide) (by decide)
  have sizeMult := ext_bits_field csd 49 47 whole (by decide) (by decide) (by decide)
  have blLen := ext_bits_field csd 83 80 whole (by decide) (by decide) (by decide)
  have sizeSmall : csdField csd 73 62 < 2 ^ 12 := csd_field_lt csd 73 62
  have multSmall : csdField csd 49 47 < 8 := csd_field_lt csd 49 47
  have lenSmall : csdField csd 83 80 < 16 := csd_field_lt csd 83 80
  have amount : (extBits csd 49 47 + 2).toNat = csdField csd 49 47 + 2 := by
    simp only [UInt32.toNat_add, sizeMult, UInt32.reduceToNat]
    omega
  have mult : ((1 : UInt32) <<< (extBits csd 49 47 + 2)).toNat = 2 ^ (csdField csd 49 47 + 2) := by
    rw [shifted_one _ (by omega), amount]
  have blockLen : ((1 : UInt32) <<< extBits csd 83 80).toNat = 2 ^ csdField csd 83 80 := by
    rw [shifted_one _ (by omega), blLen]
  have multRoom : 2 ^ (csdField csd 49 47 + 2) ≤ 2 ^ 9 := Nat.pow_le_pow_right (by decide) (by omega)
  have lenRoom : 2 ^ csdField csd 83 80 ≤ 2 ^ 15 := Nat.pow_le_pow_right (by decide) (by omega)
  -- No product leaves its word: 2^21 blocks of at most 2^15 bytes.
  have blocksRoom : (csdField csd 73 62 + 1) * 2 ^ (csdField csd 49 47 + 2) ≤ 2 ^ 12 * 2 ^ 9 := Nat.mul_le_mul (by omega) multRoom
  have bytesRoom : (csdField csd 73 62 + 1) * 2 ^ (csdField csd 49 47 + 2) * 2 ^ csdField csd 83 80 ≤ 2 ^ 12 * 2 ^ 9 * 2 ^ 15 :=
    Nat.mul_le_mul blocksRoom lenRoom
  have blocknr : ((extBits csd 73 62 + 1) * ((1 : UInt32) <<< (extBits csd 49 47 + 2))).toNat =
      (csdField csd 73 62 + 1) * 2 ^ (csdField csd 49 47 + 2) := by
    have plusOne : (extBits csd 73 62 + 1).toNat = csdField csd 73 62 + 1 := by
      rw [UInt32.toNat_add, size, UInt32.toNat_one]
      omega
    rw [UInt32.toNat_mul, mult, plusOne]
    omega
  have zero : extBits csd 127 126 = 0 := (csd_structure_is csd whole 0).mpr version
  rw [csdSectors, if_pos zero]
  refine ⟨_, _, rfl, ?_, erase_size_field csd whole⟩
  rw [UInt64.toNat_div, UInt64.toNat_mul, UInt32.toNat_toUInt64, UInt32.toNat_toUInt64, blocknr, blockLen, cardSectors, if_pos version,
    Nat.mod_eq_of_lt (by omega)]
  rfl

-- (hc_c_size + 1) << 10 is computed in 32 bits.
theorem csd_sectors_high (csd : List UInt8) (whole : csd.length = 16) (version : csdField csd 127 126 = 1) :
    ∃ blocks, csdSectors csd = some (blocks, blockSize) ∧ blocks.toNat = (csdField csd 69 48 + 1) * 1024 % 2 ^ 32 := by
  have size := ext_bits_field csd 69 48 whole (by decide) (by decide) (by decide)
  have sizeSmall : csdField csd 69 48 < 2 ^ 22 := csd_field_lt csd 69 48
  have zero : ¬ extBits csd 127 126 = 0 := fun same => by
    rw [(csd_structure_is csd whole 0).mp same] at version
    cases version
  have one : extBits csd 127 126 = 1 := (csd_structure_is csd whole 1).mpr version
  rw [csdSectors, if_neg zero, if_pos one]
  refine ⟨_, rfl, ?_⟩
  rw [UInt32.toNat_toUInt64, UInt32.toNat_shiftLeft, UInt32.toNat_add, size, UInt32.toNat_one,
    Nat.mod_eq_of_lt (show csdField csd 69 48 + 1 < 2 ^ 32 by omega), Nat.shiftLeft_eq]
  rfl

theorem csd_sectors_unknown (csd : List UInt8) (whole : csd.length = 16) (version : 1 < csdField csd 127 126) : csdSectors csd = none := by
  have zero : ¬ extBits csd 127 126 = 0 := fun same => by
    rw [(csd_structure_is csd whole 0).mp same] at version
    exact absurd version (by decide)
  have one : ¬ extBits csd 127 126 = 1 := fun same => by
    rw [(csd_structure_is csd whole 1).mp same] at version
    exact absurd version (by decide)
  rw [csdSectors, if_neg zero, if_neg one]

-- What _sd_sectors returns and leaves for the register it received.
structure CapacityRead (csd : List UInt8) (blocks : UInt64) (eraseSize : UInt32) : Prop where
  sectors : csdField csd 127 126 ≤ 1 → blocks.toNat = cardSectors csd
  erase : csdField csd 127 126 ≤ 1 → eraseSize.toNat = cardEraseSize csd
  unknown : 1 < csdField csd 127 126 → blocks = 0
  empty : blocks = 0 → 1 < csdField csd 127 126 ∨ cardSectors csd = 0

-- A version 2 register below the largest C_SIZE that erases by single blocks.
def Decodable (csd : List UInt8) : Prop :=
  csdField csd 127 126 = 1 → csdField csd 69 48 ≠ 2 ^ 22 - 1 ∧ (csdField csd 46 46 = 1 ∨ csdField csd 45 39 = 0)

theorem capacity_read_of_exact (csd : List UInt8) (blocks : UInt64) (eraseSize : UInt32) (version : csdField csd 127 126 ≤ 1)
    (sectors : blocks.toNat = cardSectors csd) (erase : eraseSize.toNat = cardEraseSize csd) : CapacityRead csd blocks eraseSize :=
  ⟨fun _ => sectors, fun _ => erase, fun unknown => absurd version (by omega), fun empty => Or.inr (by rw [← sectors, empty]; rfl)⟩

theorem high_capacity_read_iff (csd : List UInt8) (blocks : UInt64) (version : csdField csd 127 126 = 1)
    (shifted : blocks.toNat = (csdField csd 69 48 + 1) * 1024 % 2 ^ 32) : CapacityRead csd blocks blockSize ↔ Decodable csd := by
  have sizeSmall : csdField csd 69 48 < 2 ^ 22 := csd_field_lt csd 69 48
  have standard : csdField csd 127 126 ≠ 0 := by omega
  have sectors : blocks.toNat = cardSectors csd ↔ csdField csd 69 48 ≠ 2 ^ 22 - 1 := by
    rw [cardSectors, if_neg standard, shifted]
    omega
  have erase : blockSize.toNat = cardEraseSize csd ↔ csdField csd 46 46 = 1 ∨ csdField csd 45 39 = 0 := by
    rw [cardEraseSize, show blockSize.toNat = 512 from rfl]
    by_cases enabled : csdField csd 46 46 = 1
    · simp [enabled]
    · rw [if_neg enabled, or_iff_right enabled]
      omega
  constructor
  · intro read _
    exact ⟨sectors.mp (read.sectors (by omega)), erase.mp (read.erase (by omega))⟩
  · intro decodable
    obtain ⟨below, single⟩ := decodable version
    exact capacity_read_of_exact csd blocks blockSize (by omega) (sectors.mpr below) (erase.mpr single)

theorem unknown_read_iff (csd : List UInt8) (eraseSize : UInt32) (whole : csd.length = 16) (unknown : csdSectors csd = none) :
    CapacityRead csd 0 eraseSize ↔ Decodable csd := by
  have version : 1 < csdField csd 127 126 := by
    refine Decidable.byContradiction fun low => ?_
    have small : csdField csd 127 126 = 0 ∨ csdField csd 127 126 = 1 := by omega
    rcases small with standard | high
    · obtain ⟨_, _, known, -⟩ := csd_sectors_standard csd whole standard
      rw [known] at unknown
      cases unknown
    · obtain ⟨_, known, -⟩ := csd_sectors_high csd whole high
      rw [known] at unknown
      cases unknown
  exact ⟨fun _ high => absurd high (by omega), fun _ =>
    ⟨fun low => absurd low (by omega), fun low => absurd low (by omega), fun _ => rfl, fun _ => Or.inl version⟩⟩

theorem known_read_iff (csd : List UInt8) (blocks : UInt64) (eraseSize : UInt32) (whole : csd.length = 16)
    (known : csdSectors csd = some (blocks, eraseSize)) : CapacityRead csd blocks eraseSize ↔ Decodable csd := by
  have structures := csd_field_lt csd 127 126
  by_cases standard : csdField csd 127 126 = 0
  · obtain ⟨_, _, decoded, sectors, erase⟩ := csd_sectors_standard csd whole standard
    obtain ⟨rfl, rfl⟩ := Prod.mk.inj (Option.some.inj (known.symm.trans decoded))
    exact ⟨fun _ high => absurd high (by omega), fun _ => capacity_read_of_exact csd _ _ (by omega) sectors erase⟩
  · by_cases high : csdField csd 127 126 = 1
    · obtain ⟨_, decoded, shifted⟩ := csd_sectors_high csd whole high
      obtain ⟨rfl, rfl⟩ := Prod.mk.inj (Option.some.inj (known.symm.trans decoded))
      exact high_capacity_read_iff csd _ high shifted
    · rw [csd_sectors_unknown csd whole (by omega)] at known
      cases known

-- The check bytes pass: any of them while the CRC is off.
def SDCard.Passes (card : SDCard) (high low : UInt8) : Prop :=
  card.crcOn = true → card.uninitialised = ((high.toUInt16 <<< 8) ||| low.toUInt16).toUInt32

-- What the card answers from the wait for the register to its release.
def registerAnswers (wait data : List UInt8) (high low release : UInt8) : List UInt8 :=
  wait ++ spiStartBlock :: (data ++ [high, low, release])

theorem read_bytes_frame (length : UInt32) (wait data rest : List UInt8) (high low release : UInt8) (card : SDCard)
    (short : wait.length < 50000) (quiet : spiStartBlock ∉ wait) (whole : data.length = length.toNat) (passes : card.Passes high low)
    (stream : card.bus.rx = registerAnswers wait data high low release ++ rest) :
    ∃ after, (readBytes length).run card = some ((0, data), after) ∧ after.bus.rx = rest := by
  have shape : registerAnswers wait data high low release ++ rest = wait ++ spiStartBlock :: (data ++ high :: low :: release :: rest) := by
    simp [registerAnswers]
  have sought := seek_token_found spiStartBlock wait (data ++ high :: low :: release :: rest) 50000 short quiet
  obtain ⟨waited, waits, token, left⟩ := (follows_wait_token spiStartBlock 50000).ends card true _ (by rw [stream, shape]; exact sought)
  obtain ⟨filled, fills, block, left⟩ := (follows_transfer_fillers length.toNat).ends waited data _
    (by rw [left, ← whole]; exact take_answers_append data _)
  obtain ⟨highAt, highs, first, left⟩ := (follows_transfer filler).ends filled high (low :: release :: rest) (by rw [left]; rfl)
  obtain ⟨lowAt, lows, second, left⟩ := (follows_transfer filler).ends highAt low (release :: rest) (by rw [left]; rfl)
  obtain ⟨released, releases, third, left⟩ := (follows_bind (follows_transfer filler) fun _ => follows_set_cs true).ends lowAt () rest
    (by rw [left]; rfl)
  have moved := only_bus_trans _ _ _ token (only_bus_trans _ _ _ block (only_bus_trans _ _ _ first second))
  refine ⟨{ released with trace := .receivedBlock data :: released.trace }, ?_, left⟩
  refine (Lib.bind_run_some _ _ _ _ _).mpr ⟨true, waited, waits, ?_⟩
  refine (Lib.bind_run_some _ _ _ _ _).mpr ⟨data, filled, fills, ?_⟩
  refine (Lib.bind_run_some _ _ _ _ _).mpr ⟨high, highAt, highs, ?_⟩
  refine (Lib.bind_run_some _ _ _ _ _).mpr ⟨low, lowAt, lows, ?_⟩
  refine (Lib.bind_run_some _ _ _ _ _).mpr ⟨lowAt, lowAt, rfl, ?_⟩
  rw [if_neg fun failed => by rw [moved] at failed; exact failed.2 (passes failed.1)]
  exact (Lib.bind_run_some _ _ _ _ _).mpr ⟨(), released, releases, rfl⟩

theorem sd_sectors_capacity_iff (card : SDCard) (command wait csd rest : List UInt8) (high low release : UInt8)
    (accepted : Accepts .cmd9SendCsd command) (short : wait.length < 50000) (quiet : spiStartBlock ∉ wait) (whole : csd.length = 16)
    (passes : card.Passes high low) (stream : card.bus.rx = command ++ (registerAnswers wait csd high low release ++ rest)) :
    ∃ blocks after, sdSectors.run card = some (blocks, after) ∧ after.bus.rx = rest ∧
      (CapacityRead csd blocks after.eraseSize ↔ Decodable csd) := by
  obtain ⟨r1, commanded, commands, left⟩ := accepts_anywhere .cmd9SendCsd (by decide) command accepted 0x0 card _ stream
  have still : commanded.Passes high low := by
    rw [Lib.ends_run (cmd_adds _ _ _ (by decide)) commands]
    exact passes
  obtain ⟨received, reads, left⟩ := read_bytes_frame 16 wait csd rest high low release commanded short quiet whole still left
  cases known : csdSectors csd with
  | none =>
      refine ⟨0, received, ?_, left, unknown_read_iff csd _ whole known⟩
      refine (Lib.bind_run_some _ _ _ _ _).mpr ⟨(ok, r1), commanded, commands, (Lib.bind_run_some _ _ _ _ _).mpr ⟨(0, csd), received, reads, ?_⟩⟩
      dsimp only
      rw [if_neg (by decide), known]
      rfl
  | some found =>
      obtain ⟨blocks, eraseSize⟩ := found
      refine ⟨blocks, { received with eraseSize := eraseSize }, ?_, left, known_read_iff csd blocks eraseSize whole known⟩
      refine (Lib.bind_run_some _ _ _ _ _).mpr ⟨(ok, r1), commanded, commands, (Lib.bind_run_some _ _ _ _ _).mpr ⟨(0, csd), received, reads, ?_⟩⟩
      dsimp only
      rw [if_neg (by decide), known]
      rfl

def commandAnswers : List UInt8 := silent 9 ++ [0x00]

def highCapacityCsd : List UInt8 :=
  [0x40, 0x0E, 0x00, 0x32, 0x5B, 0x59, 0x00, 0x00, 0x3B, 0x37, 0x7F, 0x80, 0x0A, 0x40, 0x00, 0x01]

-- The same card with every bit of C_SIZE set: two terabytes.
def largestCsd : List UInt8 :=
  [0x40, 0x0E, 0x00, 0x32, 0x5B, 0x59, 0x00, 0x3F, 0xFF, 0xFF, 0x7F, 0x80, 0x0A, 0x40, 0x00, 0x01]

def csdCard (csd : List UInt8) : SDCard := (SDCard.fresh 0).hears (commandAnswers ++ registerAnswers [0xFF] csd 0xFF 0xFF 0xFF)

theorem largest_card_reads_empty : cardSectors largestCsd = 2 ^ 32 ∧ Accepts .cmd9SendCsd commandAnswers ∧
    ∃ after, sdSectors.run (csdCard largestCsd) = some (0, after) ∧ ¬ CapacityRead largestCsd 0 after.eraseSize := by
  have observed : (sdSectors.run (csdCard largestCsd)).map Prod.fst = some 0 := by decide +kernel
  have capacity : cardSectors largestCsd = 2 ^ 32 := by decide +kernel
  refine ⟨capacity, accepts_observed _ _ (by decide +kernel), ?_⟩
  obtain ⟨⟨blocks, after⟩, ran, same⟩ := Option.map_eq_some_iff.mp observed
  obtain rfl : blocks = 0 := same
  refine ⟨after, ran, fun read => ?_⟩
  have whole := read.sectors (by decide +kernel)
  rw [capacity] at whole
  exact absurd whole (by decide)

theorem high_capacity_card_reads : ∃ blocks after, sdSectors.run (csdCard highCapacityCsd) = some (blocks, after) ∧ after.bus.rx = [] ∧
    CapacityRead highCapacityCsd blocks after.eraseSize := by
  obtain ⟨blocks, after, ran, left, settled⟩ := sd_sectors_capacity_iff (csdCard highCapacityCsd) commandAnswers [0xFF] highCapacityCsd [] 0xFF 0xFF 0xFF
    (accepts_observed _ _ (by decide +kernel)) (by decide) (by decide) rfl (fun checked => by cases checked)
    (by rw [List.append_nil]; rfl)
  exact ⟨blocks, after, ran, left, settled.mpr fun _ => by decide +kernel⟩

-- ext_bits in the 32-bit words of the code, where a read outside of the array
-- has no value.
def extIndex (position : UInt32) : UInt32 := (15 : UInt32) - (position >>> 3)

def extTurn (data : List UInt8) (lsb bits : UInt32) (i : Nat) : Option UInt32 :=
  let position := lsb + UInt32.ofNat i
  let bit := position &&& 0x7
  data[(extIndex position).toNat]?.map fun byte => bits ||| (((byte.toUInt32 >>> bit) &&& 1) <<< UInt32.ofNat i)

def extSize (msb lsb : Int32) : UInt32 := (1 + msb - lsb).toUInt32

def extBitsChecked (data : List UInt8) (msb lsb : Int32) : Option UInt32 :=
  (List.range (extSize msb lsb).toNat).foldlM (extTurn data lsb.toUInt32) 0

-- The subtraction from 15 does not wrap: the array has a byte for each of the
-- 128 positions.
theorem ext_index_value (position : UInt32) (inside : position.toNat < 128) : (extIndex position).toNat = 15 - position.toNat >>> 3 := by
  have few : position >>> 3 ≤ 15 := by
    rw [UInt32.le_iff_toNat_le, UInt32.toNat_shiftRight]
    change position.toNat >>> 3 ≤ 15
    rw [Nat.shiftRight_eq_div_pow]
    omega
  rw [extIndex, UInt32.toNat_sub_of_le _ _ few, UInt32.toNat_shiftRight]
  rfl

theorem ext_position (lsb : UInt32) (i : Nat) (inside : lsb.toNat + i < 128) : (lsb + UInt32.ofNat i).toNat = lsb.toNat + i := by
  rw [UInt32.toNat_add, UInt32.toNat_ofNat']
  omega

theorem ext_turn_reads (data : List UInt8) (lsb bits : UInt32) (i : Nat) (whole : data.length = 16) (inside : lsb.toNat + i < 128) :
    extTurn data lsb bits i = some (bits ||| (extBit data lsb.toNat i <<< UInt32.ofNat i)) := by
  have position := ext_position lsb i inside
  have index : (extIndex (lsb + UInt32.ofNat i)).toNat = 15 - (lsb.toNat + i) >>> 3 := by
    rw [ext_index_value _ (by omega), position]
  have held : 15 - (lsb.toNat + i) >>> 3 < data.length := by omega
  have bit : (lsb + UInt32.ofNat i) &&& 0x7 = UInt32.ofNat ((lsb.toNat + i) &&& 0x7) := by
    rw [← UInt32.toNat_inj, UInt32.toNat_and, position, UInt32.toNat_ofNat']
    have small : (lsb.toNat + i) &&& (7 : UInt32).toNat ≤ 7 := Nat.and_le_right
    exact (Nat.mod_eq_of_lt (by omega)).symm
  rw [extTurn, index, List.getElem?_eq_getElem held, bit, extBit, List.getD_eq_getElem?_getD, List.getElem?_eq_getElem held]
  rfl

theorem ext_turns_read (data : List UInt8) (lsb : UInt32) (count : Nat) (whole : data.length = 16) (inside : lsb.toNat + count ≤ 128) :
    (List.range count).foldlM (extTurn data lsb) 0 =
      some ((List.range count).foldl (fun bits i => bits ||| (extBit data lsb.toNat i <<< UInt32.ofNat i)) 0) := by
  induction count with
  | zero => rfl
  | succ count ih =>
      rw [List.range_succ, List.foldlM_append, ih (by omega), List.foldl_append, List.foldl_cons, List.foldl_nil]
      simp only [Option.bind_eq_bind, Option.bind_some, List.foldlM_cons, List.foldlM_nil,
        ext_turn_reads data lsb _ count whole (by omega)]
      rfl

theorem ext_size_value (msb lsb : Int32) (low : 0 ≤ lsb) (ordered : lsb ≤ msb) (high : msb ≤ 127) :
    (extSize msb lsb).toNat = 1 + msb.toNatClampNeg - lsb.toNatClampNeg := by
  have lsbNat := Int32.toNat_toUInt32_of_le low
  have msbNat := Int32.toNat_toUInt32_of_le (Int32.le_trans low ordered)
  have order := Int32.toNatClampNeg_le ordered
  have top : msb.toNatClampNeg ≤ 127 := Int32.toNatClampNeg_le high
  rw [extSize, Int32.toUInt32_sub, Int32.toUInt32_add, UInt32.toNat_sub, UInt32.toNat_add, lsbNat, msbNat]
  have one : (1 : Int32).toUInt32.toNat = 1 := rfl
  omega

-- Where the array is not left, the checked reads change nothing.
theorem ext_bits_checked_same (data : List UInt8) (msb lsb : Int32) (whole : data.length = 16) (low : 0 ≤ lsb) (ordered : lsb ≤ msb)
    (high : msb ≤ 127) : extBitsChecked data msb lsb = some (extBits data msb.toNatClampNeg lsb.toNatClampNeg) := by
  have order := Int32.toNatClampNeg_le ordered
  have top : msb.toNatClampNeg ≤ 127 := Int32.toNatClampNeg_le high
  rw [extBitsChecked, ext_size_value msb lsb low ordered high,
    ext_turns_read data lsb.toUInt32 _ whole (by rw [Int32.toNat_toUInt32_of_le low]; omega), Int32.toNat_toUInt32_of_le low]
  rfl

theorem ext_bits_exact (data : List UInt8) (msb lsb : Int32) (whole : data.length = 16) (low : 0 ≤ lsb) (ordered : lsb ≤ msb)
    (high : msb ≤ 127) (narrow : msb - lsb < 32) :
    (∃ bits, extBitsChecked data msb lsb = some bits ∧
      bits.toNat = Lib.bigEndian data / 2 ^ lsb.toNatClampNeg % 2 ^ (msb.toNatClampNeg - lsb.toNatClampNeg + 1)) ∧
    ∀ i < extSize msb lsb, extIndex (lsb.toUInt32 + i) < 16 := by
  have order := Int32.toNatClampNeg_le ordered
  have top : msb.toNatClampNeg ≤ 127 := Int32.toNatClampNeg_le high
  constructor
  · have width : 1 + msb.toNatClampNeg - lsb.toNatClampNeg = msb.toNatClampNeg - lsb.toNatClampNeg + 1 := by omega
    have few : msb.toNatClampNeg - lsb.toNatClampNeg < 32 := by
      have bound : (msb - lsb).toInt < 32 := Int32.lt_iff_toInt_lt.mp narrow
      rw [← Int32.toNatClampNeg_sub_of_le low ordered, Int32.toNatClampNeg]
      omega
    refine ⟨_, ext_bits_checked_same data msb lsb whole low ordered high, ?_⟩
    rw [ext_bits_field data _ _ whole (by omega) order few, csdField, width]
  · intro i turn
    rw [UInt32.lt_iff_toNat_lt, ext_size_value msb lsb low ordered high] at turn
    have position : (lsb.toUInt32 + i).toNat = lsb.toNatClampNeg + i.toNat := by
      rw [UInt32.toNat_add, Int32.toNat_toUInt32_of_le low]
      omega
    rw [UInt32.lt_iff_toNat_lt, ext_index_value _ (by omega)]
    exact Nat.lt_of_le_of_lt (Nat.sub_le _ _) (by decide)

theorem high_capacity_size_bits : (∃ bits, extBitsChecked highCapacityCsd 69 48 = some bits ∧
      bits.toNat = Lib.bigEndian highCapacityCsd / 2 ^ 48 % 2 ^ 22) ∧
    ∀ i < extSize 69 48, extIndex (48 + i) < 16 :=
  ext_bits_exact highCapacityCsd 69 48 rfl (by decide) (by decide) (by decide) (by decide)

end SDCardFs.Driver

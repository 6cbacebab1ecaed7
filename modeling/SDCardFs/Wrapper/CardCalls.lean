import SDCardFs.Driver.Blocks
import SDCardFs.Littlefs.Aligned
import SDCardFs.Wrapper.MountAsync

set_option autoImplicit false

namespace SDCardFs.Wrapper

open SDCardFs.Littlefs

-- (uint64_t)block * c->block_size + off
def sdAddr (cfg : Config) (block off : UInt32) : UInt64 := block.toUInt64 * cfg.blockSize.toUInt64 + off.toUInt64

-- A call that the driver takes: whole pages, inside one block of the file system.
structure OnCard (cfg : Config) (block off : UInt32) (size : Nat) (accepted : Bool) : Prop where
  positive : size ≠ 0
  pages : size % 512 = 0
  block : block < cfg.blockCount
  within : off.toNat + size ≤ cfg.blockSize.toNat
  accepted : accepted = true

def Taken (cfg : Config) (card : Driver.SDCard) : Access → Prop
  | .read block off size => OnCard cfg block off size (card.isValidRead (sdAddr cfg block off) (UInt64.ofNat size))
  | .prog block off data => OnCard cfg block off data.length (card.isValidProgram (sdAddr cfg block off) (UInt64.ofNat data.length))

theorem sd_addr_toNat (cfg : Config) (block off : UInt32) : (sdAddr cfg block off).toNat = block.toNat * cfg.blockSize.toNat + off.toNat := by
  have blockSmall := block.toNat_lt
  have sizeSmall := cfg.blockSize.toNat_lt
  have offSmall := off.toNat_lt
  have product : block.toNat * cfg.blockSize.toNat ≤ (2 ^ 32 - 1) * (2 ^ 32 - 1) := Nat.mul_le_mul (by omega) (by omega)
  rw [sdAddr, UInt64.toNat_add, UInt64.toNat_mul, UInt32.toNat_toUInt64, UInt32.toNat_toUInt64, UInt32.toNat_toUInt64]
  rw [Nat.mod_eq_of_lt (show block.toNat * cfg.blockSize.toNat < 2 ^ 64 by omega)]
  exact Nat.mod_eq_of_lt (by omega)

-- Different places of different blocks are different bytes of the card.
theorem sd_addr_injective (cfg : Config) (block off otherBlock otherOff : UInt32) (inside : off < cfg.blockSize)
    (otherInside : otherOff < cfg.blockSize) (same : sdAddr cfg block off = sdAddr cfg otherBlock otherOff) :
    block = otherBlock ∧ off = otherOff := by
  have bytes := congrArg UInt64.toNat same
  rw [sd_addr_toNat, sd_addr_toNat] at bytes
  rw [UInt32.lt_iff_toNat_lt] at inside otherInside
  have blocks : block.toNat = otherBlock.toNat := by
    have left := Nat.mul_add_div (show 0 < cfg.blockSize.toNat by omega) block.toNat off.toNat
    have right := Nat.mul_add_div (show 0 < cfg.blockSize.toNat by omega) otherBlock.toNat otherOff.toNat
    rw [Nat.div_eq_of_lt inside, Nat.mul_comm] at left
    rw [Nat.div_eq_of_lt otherInside, Nat.mul_comm] at right
    rw [bytes] at left
    omega
  rw [blocks] at bytes
  exact ⟨UInt32.toNat_inj.mp blocks, UInt32.toNat_inj.mp (by omega)⟩

section
variable {Media : Type}

-- The blocks lie inside the card, also where their count was cut to 32 bits.
theorem card_blocks_fit (fs : LittleFS Media) (lookahead : UInt32) (size : UInt64) :
    (fs.cardConfig lookahead size).blockCount.toNat * (fs.cardConfig lookahead size).blockSize.toNat ≤ size.toNat := by
  have count : (fs.cardConfig lookahead size).blockCount.toNat ≤ size.toNat / (fs.cardConfig lookahead size).blockSize.toNat := by
    have cut : (fs.cardConfig lookahead size).blockCount.toNat =
        size.toNat / (fs.cardConfig lookahead size).blockSize.toNat % 2 ^ 32 := by
      rw [LittleFS.cardConfig, UInt64.toNat_toUInt32, UInt64.toNat_div, UInt32.toNat_toUInt64]
    rw [cut]
    exact Nat.mod_le _ _
  exact Nat.le_trans (Nat.mul_le_mul_right _ count) (Nat.div_mul_le_self _ _)

theorem span_accepted (fs : LittleFS Media) (lookahead : UInt32) (card : Driver.SDCard) (block off : UInt32) (size : Nat)
    (paged : Paged (fs.cardConfig lookahead card.size)) (span : Span (fs.cardConfig lookahead card.size) block off size) :
    card.isValidRead (sdAddr (fs.cardConfig lookahead card.size) block off) (UInt64.ofNat size) = true := by
  have within := span.within
  have fit := card_blocks_fit fs lookahead card.size
  have addr := sd_addr_toNat (fs.cardConfig lookahead card.size) block off
  have before : block.toNat + 1 ≤ (fs.cardConfig lookahead card.size).blockCount.toNat := UInt32.lt_iff_toNat_lt.mp span.block
  have blocks := Nat.mul_le_mul_right (fs.cardConfig lookahead card.size).blockSize.toNat before
  have start := span.start
  have wholePages := paged.pages
  generalize (fs.cardConfig lookahead card.size).blockSize.toNat = bytes at *
  rw [Nat.succ_mul] at blocks
  have small := card.size.toNat_lt
  have length : (UInt64.ofNat size).toNat = size := by
    rw [UInt64.toNat_ofNat']
    exact Nat.mod_eq_of_lt (by omega)
  have sum : (sdAddr (fs.cardConfig lookahead card.size) block off + UInt64.ofNat size).toNat = block.toNat * bytes + off.toNat + size := by
    rw [UInt64.toNat_add, addr, length]
    exact Nat.mod_eq_of_lt (by omega)
  have page : (block.toNat * bytes + off.toNat) % 512 = 0 := by
    rw [Nat.add_mod, Nat.mul_mod, wholePages, start]
    rfl
  have pages : size % 512 = 0 := span.pages
  rw [Driver.SDCard.isValidRead, decide_eq_true_iff]
  refine ⟨?_, ?_, ?_⟩
  · rw [← UInt64.toNat_inj, UInt64.toNat_mod, addr]
    exact page
  · rw [← UInt64.toNat_inj, UInt64.toNat_mod, length]
    exact pages
  · rw [UInt64.le_iff_toNat_le, sum]
    omega

theorem spans_taken (fs : LittleFS Media) (lookahead : UInt32) (card : Driver.SDCard) (access : Access)
    (paged : Paged (fs.cardConfig lookahead card.size)) (spans : access.Spans (fs.cardConfig lookahead card.size)) :
    Taken (fs.cardConfig lookahead card.size) card access := by
  cases access with
  | read block off size =>
      have span : Span _ block off size := spans
      exact ⟨Nat.pos_iff_ne_zero.mp span.positive, span.pages, span.block, span.within, span_accepted fs lookahead card block off size paged span⟩
  | prog block off data =>
      have span : Span _ block off data.length := spans
      exact ⟨Nat.pos_iff_ne_zero.mp span.positive, span.pages, span.block, span.within,
        span_accepted fs lookahead card block off data.length paged span⟩

theorem bd_calls_taken (fs : LittleFS Media) (lookahead : UInt32) (card : Driver.SDCard) (calls : List BdCall) (pcache rcache : Cache)
    (reads : (fs.cardConfig lookahead card.size).readSize = 512) (programs : (fs.cardConfig lookahead card.size).progSize = 512)
    (pages : (fs.cardConfig lookahead card.size).blockSize % 512 = 0) (small : (fs.cardConfig lookahead card.size).blockSize < 0x40000000)
    (proper : ∀ call ∈ calls, call.Proper) (dropped : pcache.block = lfsBlockNull ∧ rcache.block = lfsBlockNull) :
    (bdCalls (fs.cardConfig lookahead card.size) calls pcache rcache).Always (Taken (fs.cardConfig lookahead card.size) card) (fun _ => True) ∧
      ∀ block off otherBlock otherOff, off < (fs.cardConfig lookahead card.size).blockSize →
        otherOff < (fs.cardConfig lookahead card.size).blockSize →
        sdAddr (fs.cardConfig lookahead card.size) block off = sdAddr (fs.cardConfig lookahead card.size) otherBlock otherOff →
        block = otherBlock ∧ off = otherOff := by
  have paged : Paged (fs.cardConfig lookahead card.size) := by
    rw [← UInt32.toNat_inj, UInt32.toNat_mod] at pages
    exact ⟨reads, programs, rfl, pages, UInt32.lt_iff_toNat_lt.mp small⟩
  have aligned := bd_calls_aligned _ calls paged proper pcache rcache (aligned_beyond _ _ dropped.1) (aligned_beyond _ _ dropped.2)
  refine ⟨?_, fun block off otherBlock otherOff inside otherInside same => sd_addr_injective _ _ _ _ _ inside otherInside same⟩
  exact Lib.Prog.always_asks _ aligned (fun access => spans_taken fs lookahead card access paged) fun _ _ => trivial

end

def sixteenSectors : Driver.SDCard := { Driver.SDCard.fresh 0 with sectors := 16, isInitialized := true }

def droppedCache : Cache := { zeroCache with block := lfsBlockNull }

theorem mixed_calls_taken :
    (bdCalls (freshWorld.fs.cardConfig 8192 sixteenSectors.size)
      [.read false 512 0 0 (zeros 4), .prog true 1 0 (zeros 512), .flush true] droppedCache droppedCache).Always
      (Taken (freshWorld.fs.cardConfig 8192 sixteenSectors.size) sixteenSectors) (fun _ => True) := by
  refine (bd_calls_taken freshWorld.fs 8192 sixteenSectors _ droppedCache droppedCache rfl rfl (by decide) (by decide) ?_ ⟨rfl, rfl⟩).1
  intro call member
  rcases List.mem_cons.mp member with rfl | member
  · exact ⟨⟨by decide, by decide⟩, by decide⟩
  rcases List.mem_cons.mp member with rfl | member
  · have page : (zeros 512).length = 512 := List.length_replicate
    rw [BdCall.Proper, page]
    decide
  obtain rfl := List.mem_singleton.mp member
  exact trivial

-- With this hint the end of the load wraps around to its start.
theorem huge_hint_reads_nothing : ∃ log ended,
    (bdCalls (freshWorld.fs.cardConfig 8192 sixteenSectors.size) [.read false 0xFFFFFFFF 0 0 (zeros 1)] droppedCache droppedCache).Plays
      log ended ∧
    ∃ entry ∈ log, ¬ Taken (freshWorld.fs.cardConfig 8192 sixteenSectors.size) sixteenSectors entry.1 := by
  refine ⟨[⟨.read 0 0 0, (⟨-1, 0, fun _ => 0⟩ : ReadResult)⟩], _, .ask _ _ _ _ _ (.done _), _, List.mem_cons_self, fun taken => ?_⟩
  exact taken.positive rfl

end SDCardFs.Wrapper

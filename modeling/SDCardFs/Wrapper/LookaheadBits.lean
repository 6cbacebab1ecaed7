import SDCardFs.Driver.Reachable
import SDCardFs.Littlefs.Window
import SDCardFs.Wrapper.CardCalls

set_option autoImplicit false

namespace SDCardFs.Wrapper

open SDCardFs.Littlefs

section

variable (cfg : Config) (off size block : UInt32)

-- The distance of a block from the start of the window, around the end of the
-- card where the block lies before the start.
def windowPlace : Nat := (block.toNat + cfg.blockCount.toNat - off.toNat) % cfg.blockCount.toNat

-- What both sides take the bits of a window to mean: the block's place is
-- marked for it, and it is handed out for that bit and for no other.
structure BitRight : Prop where
  marks : ∀ free : Free, free.off = off → free.size = size → ∀ index : UInt32, (lfsAllocLookahead cfg free block).bit index = true ↔
    free.bit index = true ∨ index.toNat = windowPlace cfg off block ∧ index < size
  returns : ∀ (free : Free) (turns : Nat), free.off = off → free.i.toNat = windowPlace cfg off block → free.i < size →
    free.bit free.i = false → (allocWindow cfg (turns + 1) free).1 = some block
  apart : ∀ (free : Free) (turns : Nat), free.off = off → free.i < size → free.i < cfg.blockCount → free.bit free.i = false →
    (allocWindow cfg (turns + 1) free).1 = some block → free.i.toNat = windowPlace cfg off block

-- The sums of lfs_alloc_lookahead and of lfs_alloc stay below 2^32, or pass it
-- at places the window does not reach.
structure SumsFit : Prop where
  marking : off ≤ block → block.toNat - off.toNat + cfg.blockCount.toNat < 2 ^ 32 ∨
    2 ^ 32 + size.toNat ≤ block.toNat - off.toNat + cfg.blockCount.toNat
  finding : block < off → block.toNat + cfg.blockCount.toNat < 2 ^ 32 ∨ size.toNat ≤ block.toNat + cfg.blockCount.toNat - off.toNat
  passing : block < off → size.toNat ≤ block.toNat + 2 ^ 32 - off.toNat ∨ cfg.blockCount.toNat ≤ block.toNat + 2 ^ 32 - off.toNat

end

section

variable {cfg : Config} {off size block : UInt32}

theorem window_place_after (inside : block < cfg.blockCount) (after : off ≤ block) : windowPlace cfg off block = block.toNat - off.toNat := by
  have insideNat := UInt32.lt_iff_toNat_lt.mp inside
  have afterNat := UInt32.le_iff_toNat_le.mp after
  have shape : block.toNat + cfg.blockCount.toNat - off.toNat = block.toNat - off.toNat + cfg.blockCount.toNat := by omega
  rw [windowPlace, shape, Nat.add_mod_right]
  exact Nat.mod_eq_of_lt (by omega)

theorem window_place_before (start : off < cfg.blockCount) (before : block < off) :
    windowPlace cfg off block = block.toNat + cfg.blockCount.toNat - off.toNat := by
  have startNat := UInt32.lt_iff_toNat_lt.mp start
  have beforeNat := UInt32.lt_iff_toNat_lt.mp before
  exact Nat.mod_eq_of_lt (by omega)

-- What lfs_alloc_lookahead takes for the place.
theorem lookahead_off_after (inside : block < cfg.blockCount) (after : off ≤ block) : (lookaheadOff cfg off block).toNat =
    if block.toNat - off.toNat + cfg.blockCount.toNat < 2 ^ 32 then windowPlace cfg off block
    else block.toNat - off.toNat + cfg.blockCount.toNat - 2 ^ 32 := by
  have insideNat := UInt32.lt_iff_toNat_lt.mp inside
  have afterNat := UInt32.le_iff_toNat_le.mp after
  have count := cfg.blockCount.toNat_lt
  rw [lookaheadOff, UInt32.toNat_mod, UInt32.toNat_add, UInt32.toNat_sub_of_le _ _ after, window_place_after inside after]
  by_cases fits : block.toNat - off.toNat + cfg.blockCount.toNat < 2 ^ 32
  · rw [if_pos fits, Nat.mod_eq_of_lt fits, Nat.add_mod_right]
    exact Nat.mod_eq_of_lt (by omega)
  · have wrapped : (block.toNat - off.toNat + cfg.blockCount.toNat) % 2 ^ 32 = block.toNat - off.toNat + cfg.blockCount.toNat - 2 ^ 32 := by
      omega
    rw [if_neg fits, wrapped]
    exact Nat.mod_eq_of_lt (by omega)

theorem lookahead_off_before (start : off < cfg.blockCount) (before : block < off) :
    (lookaheadOff cfg off block).toNat = windowPlace cfg off block := by
  have startNat := UInt32.lt_iff_toNat_lt.mp start
  have beforeNat := UInt32.lt_iff_toNat_lt.mp before
  have count := cfg.blockCount.toNat_lt
  have sum : (2 ^ 32 - off.toNat + block.toNat) % 2 ^ 32 + cfg.blockCount.toNat = block.toNat + cfg.blockCount.toNat - off.toNat + 2 ^ 32 := by
    omega
  rw [lookaheadOff, UInt32.toNat_mod, UInt32.toNat_add, UInt32.toNat_sub, sum, window_place_before start before, Nat.add_mod_right]
  rw [Nat.mod_eq_of_lt (by omega : block.toNat + cfg.blockCount.toNat - off.toNat < 2 ^ 32)]
  exact Nat.mod_eq_of_lt (by omega)

-- Marking sets one bit of the window, or none.
theorem lookahead_mark (free : Free) (window : free.off = off) (extent : free.size = size) (index : UInt32) :
    (lfsAllocLookahead cfg free block).bit index = true ↔
      free.bit index = true ∨ index = lookaheadOff cfg off block ∧ index < size := by
  rw [lfsAllocLookahead, window, extent]
  by_cases reached : lookaheadOff cfg off block < size
  · rw [if_pos reached, Free.bit, Lib.Bitmap.setBit_bit, or_comm]
    refine or_congr_right (iff_self_and.mpr fun same => ?_)
    rw [same]
    exact reached
  · rw [if_neg reached]
    refine (or_iff_left fun both => ?_).symm
    rw [both.1] at both
    exact reached both.2

theorem alloc_window_clear (cfg : Config) (free : Free) (turns : Nat) (clear : free.bit free.i = false) :
    (allocWindow cfg (turns + 1) free).1 = some ((free.off + free.i) % cfg.blockCount) := by
  have same : ¬ ({ free with i := free.i + 1, ack := free.ack - 1 } : Free).bit free.i = true := by
    intro set
    have found : free.bit free.i = true := set
    rw [clear] at found
    cases found
  rw [allocWindow]
  dsimp only
  rw [if_neg same]

theorem window_block (start : off < cfg.blockCount) (index : UInt32) : ((off + index) % cfg.blockCount).toNat =
    if off.toNat + index.toNat < 2 ^ 32 then (off.toNat + index.toNat) % cfg.blockCount.toNat else off.toNat + index.toNat - 2 ^ 32 := by
  have startNat := UInt32.lt_iff_toNat_lt.mp start
  have indexSmall := index.toNat_lt
  rw [UInt32.toNat_mod, UInt32.toNat_add]
  by_cases fits : off.toNat + index.toNat < 2 ^ 32
  · rw [if_pos fits, Nat.mod_eq_of_lt fits]
  · have count := cfg.blockCount.toNat_lt
    have wrapped : (off.toNat + index.toNat) % 2 ^ 32 = off.toNat + index.toNat - 2 ^ 32 := by omega
    rw [if_neg fits, wrapped]
    exact Nat.mod_eq_of_lt (by omega)

-- The number of the block that lfs_alloc hands out for a clear bit, before and after the sum loses 2^32.
theorem alloc_window_block (start : off < cfg.blockCount) (free : Free) (turns : Nat) (window : free.off = off)
    (clear : free.bit free.i = false) :
    (allocWindow cfg (turns + 1) free).1 = some block ↔
      (if off.toNat + free.i.toNat < 2 ^ 32 then (off.toNat + free.i.toNat) % cfg.blockCount.toNat
        else off.toNat + free.i.toNat - 2 ^ 32) = block.toNat := by
  rw [alloc_window_clear cfg free turns clear, window, Option.some.injEq, ← UInt32.toNat_inj, window_block start]

theorem fit_marks (start : off < cfg.blockCount) (inside : block < cfg.blockCount) (fit : SumsFit cfg off size block) (free : Free)
    (window : free.off = off) (extent : free.size = size) (index : UInt32) :
    (lfsAllocLookahead cfg free block).bit index = true ↔
      free.bit index = true ∨ index.toNat = windowPlace cfg off block ∧ index < size := by
  rw [lookahead_mark free window extent]
  refine or_congr_right (and_congr_left fun reached => ?_)
  have reachedNat := UInt32.lt_iff_toNat_lt.mp reached
  rw [← UInt32.toNat_inj]
  by_cases after : off ≤ block
  · have insideNat := UInt32.lt_iff_toNat_lt.mp inside
    have afterNat := UInt32.le_iff_toNat_le.mp after
    rw [lookahead_off_after inside after]
    split
    · exact Iff.rfl
    · have far := (fit.marking after).resolve_left (by assumption)
      have place := window_place_after inside after
      have count := cfg.blockCount.toNat_lt
      omega
  · rw [lookahead_off_before start (UInt32.not_le.mp after)]

theorem fit_returns (start : off < cfg.blockCount) (inside : block < cfg.blockCount) (fit : SumsFit cfg off size block) (free : Free)
    (turns : Nat) (window : free.off = off) (place : free.i.toNat = windowPlace cfg off block) (reached : free.i < size)
    (clear : free.bit free.i = false) : (allocWindow cfg (turns + 1) free).1 = some block := by
  have insideNat := UInt32.lt_iff_toNat_lt.mp inside
  have reachedNat := UInt32.lt_iff_toNat_lt.mp reached
  apply (alloc_window_block start free turns window clear).mpr
  by_cases after : off ≤ block
  · have afterNat := UInt32.le_iff_toNat_le.mp after
    rw [window_place_after inside after] at place
    have sum : off.toNat + free.i.toNat = block.toNat := by omega
    rw [sum, if_pos block.toNat_lt]
    exact Nat.mod_eq_of_lt insideNat
  · have before := UInt32.not_le.mp after
    have startNat := UInt32.lt_iff_toNat_lt.mp start
    rw [window_place_before start before] at place
    have sum : off.toNat + free.i.toNat = block.toNat + cfg.blockCount.toNat := by omega
    have fits := (fit.finding before).resolve_right (by omega)
    rw [sum, if_pos fits, Nat.add_mod_right]
    exact Nat.mod_eq_of_lt insideNat

theorem fit_apart (start : off < cfg.blockCount) (inside : block < cfg.blockCount) (fit : SumsFit cfg off size block) (free : Free)
    (turns : Nat) (window : free.off = off) (reached : free.i < size) (small : free.i < cfg.blockCount) (clear : free.bit free.i = false)
    (found : (allocWindow cfg (turns + 1) free).1 = some block) : free.i.toNat = windowPlace cfg off block := by
  have startNat := UInt32.lt_iff_toNat_lt.mp start
  have insideNat := UInt32.lt_iff_toNat_lt.mp inside
  have reachedNat := UInt32.lt_iff_toNat_lt.mp reached
  have smallNat := UInt32.lt_iff_toNat_lt.mp small
  have value := (alloc_window_block start free turns window clear).mp found
  split at value
  · rcases wrap_cases _ _ _ startNat smallNat with ⟨same, before⟩ | ⟨same, wraps⟩
    · rw [same] at value
      rw [window_place_after inside (UInt32.le_iff_toNat_le.mpr (by omega))]
      omega
    · rw [same] at value
      rw [window_place_before start (UInt32.lt_iff_toNat_lt.mpr (by omega))]
      omega
  · have before : block < off := UInt32.lt_iff_toNat_lt.mpr (by have index := free.i.toNat_lt; omega)
    have beforeNat := UInt32.lt_iff_toNat_lt.mp before
    -- A sum past 2^32 is an index the window or the card does not have.
    rcases fit.passing before with short | few
    · omega
    · omega

theorem right_of_fit (start : off < cfg.blockCount) (inside : block < cfg.blockCount) (fit : SumsFit cfg off size block) :
    BitRight cfg off size block where
  marks := fit_marks start inside fit
  returns := fit_returns start inside fit
  apart := fit_apart start inside fit

-- A window with nothing marked, at an index.
def clearWindow (off size : UInt32) (index : UInt32) : Free := ⟨off, size, index, 0, fun _ => 0⟩

theorem clear_window_bit (off size index other : UInt32) : (clearWindow off size index).bit other = false := by
  simp [clearWindow, Free.bit, Lib.Bitmap.bit]

theorem window_index (place : Nat) (small : place < 2 ^ 32) : ∃ index : UInt32, index.toNat = place :=
  ⟨UInt32.ofNat place, (UInt32.toNat_ofNat' ..).trans (Nat.mod_eq_of_lt small)⟩

theorem right_marking (inside : block < cfg.blockCount) (right : BitRight cfg off size block) (after : off ≤ block) :
    block.toNat - off.toNat + cfg.blockCount.toNat < 2 ^ 32 ∨
      2 ^ 32 + size.toNat ≤ block.toNat - off.toNat + cfg.blockCount.toNat := by
  have insideNat := UInt32.lt_iff_toNat_lt.mp inside
  have count := cfg.blockCount.toNat_lt
  by_cases fits : block.toNat - off.toNat + cfg.blockCount.toNat < 2 ^ 32
  · exact Or.inl fits
  · refine Or.inr (Nat.le_of_not_lt fun reaches => ?_)
    have place := lookahead_off_after inside after
    rw [if_neg fits] at place
    have reached : lookaheadOff cfg off block < size := UInt32.lt_iff_toNat_lt.mpr (by omega)
    have set : (lfsAllocLookahead cfg (clearWindow off size 0) block).bit (lookaheadOff cfg off block) = true :=
      (lookahead_mark (clearWindow off size 0) rfl rfl _).mpr (Or.inr ⟨rfl, reached⟩)
    rcases (right.marks _ rfl rfl _).mp set with old | ⟨same, -⟩
    · rw [clear_window_bit] at old
      cases old
    · rw [window_place_after inside after] at same
      omega

theorem right_finding (start : off < cfg.blockCount) (right : BitRight cfg off size block) (before : block < off) :
    block.toNat + cfg.blockCount.toNat < 2 ^ 32 ∨ size.toNat ≤ block.toNat + cfg.blockCount.toNat - off.toNat := by
  have startNat := UInt32.lt_iff_toNat_lt.mp start
  have count := cfg.blockCount.toNat_lt
  have extent := size.toNat_lt
  by_cases fits : block.toNat + cfg.blockCount.toNat < 2 ^ 32
  · exact Or.inl fits
  · refine Or.inr (Nat.le_of_not_lt fun reaches => ?_)
    have place := window_place_before start before
    obtain ⟨index, indexNat⟩ := window_index (windowPlace cfg off block) (by omega)
    have clear := clear_window_bit off size index index
    have found := right.returns (clearWindow off size index) 0 rfl indexNat
      (UInt32.lt_iff_toNat_lt.mpr (by rw [clearWindow, indexNat]; omega)) clear
    have value := (alloc_window_block start (clearWindow off size index) 0 rfl clear).mp found
    rw [clearWindow, indexNat, if_neg (by omega)] at value
    omega

theorem right_passing (start : off < cfg.blockCount) (right : BitRight cfg off size block) (before : block < off) :
    size.toNat ≤ block.toNat + 2 ^ 32 - off.toNat ∨ cfg.blockCount.toNat ≤ block.toNat + 2 ^ 32 - off.toNat := by
  have startNat := UInt32.lt_iff_toNat_lt.mp start
  have beforeNat := UInt32.lt_iff_toNat_lt.mp before
  have count := cfg.blockCount.toNat_lt
  by_cases few : cfg.blockCount.toNat ≤ block.toNat + 2 ^ 32 - off.toNat
  · exact Or.inr few
  · refine Or.inl (Nat.le_of_not_lt fun reaches => ?_)
    obtain ⟨index, indexNat⟩ := window_index (block.toNat + 2 ^ 32 - off.toNat) (by omega)
    have clear := clear_window_bit off size index index
    have found : (allocWindow cfg 1 (clearWindow off size index)).1 = some block := by
      apply (alloc_window_block start (clearWindow off size index) 0 rfl clear).mpr
      rw [clearWindow, indexNat, if_neg (by omega)]
      omega
    have place := right.apart (clearWindow off size index) 0 rfl (UInt32.lt_iff_toNat_lt.mpr (by rw [clearWindow, indexNat]; omega))
      (UInt32.lt_iff_toNat_lt.mpr (by rw [clearWindow, indexNat]; omega)) clear found
    rw [clearWindow, indexNat, window_place_before start before] at place
    omega

theorem fit_of_right (start : off < cfg.blockCount) (inside : block < cfg.blockCount) (right : BitRight cfg off size block) :
    SumsFit cfg off size block where
  marking := right_marking inside right
  finding := right_finding start right
  passing := right_passing start right

end

theorem lookahead_bit_iff {Media : Type} (fs : LittleFS Media) (lookahead : UInt32) (size : UInt64) (off window block : UInt32)
    (start : off < (fs.cardConfig lookahead size).blockCount) (inside : block < (fs.cardConfig lookahead size).blockCount) :
    BitRight (fs.cardConfig lookahead size) off window block ↔ SumsFit (fs.cardConfig lookahead size) off window block :=
  ⟨fit_of_right start inside, right_of_fit start inside⟩

-- The largest card the driver reports: 2^32 - 1024 sectors.
def wideCsd : List UInt8 := [0x40, 0x0E, 0x00, 0x32, 0x5B, 0x59, 0x00, 0x3F, 0xFF, 0xFE, 0x7F, 0x80, 0x0A, 0x40, 0x00, 0x01]

def wideCard : Driver.SDCard :=
  (Driver.SDCard.fresh 0).hears (Driver.handshakeAnswers (Driver.commandAnswer 0x00 [0xC0, 0x10, 0x00, 0x00]) ++
    (Driver.silent 9 ++ [0x00, 0xFE] ++ wideCsd ++ Driver.silent 3) ++ Driver.commandAnswer 0x00 [])

theorem wide_card_reached : ∃ card : Driver.SDCard, card.Reachable ∧ card.isInitialized = true ∧ card.sectors = 4294966272 := by
  have observed : (Driver.init.run wideCard).map (fun answer => (answer.2.isInitialized, answer.2.sectors)) = some (true, 4294966272) := by
    decide +kernel
  cases ran : Driver.init.run wideCard with
  | none => simp [ran] at observed
  | some answer =>
      simp only [ran, Option.map_some, Option.some.injEq, Prod.mk.injEq] at observed
      exact ⟨answer.2, ⟨0, [(.init, wideCard.bus.rx)], .snoc _ _ _ [] _ (.nil _) ⟨answer.1, ran⟩⟩, observed⟩

-- Block 1024 is in use and marked, and lfs_alloc hands it out for its own bit.
theorem wide_card_reuses_block : ∃ card : Driver.SDCard, card.Reachable ∧ card.isInitialized = true ∧
    (0 : UInt32) < (freshWorld.fs.cardConfig 8192 card.size).blockCount ∧ 1024 < (freshWorld.fs.cardConfig 8192 card.size).blockCount ∧
    (allocWindow (freshWorld.fs.cardConfig 8192 card.size) 1
      (lfsAllocLookahead (freshWorld.fs.cardConfig 8192 card.size) (clearWindow 0 65536 1024) 1024)).1 = some 1024 ∧
    ¬ BitRight (freshWorld.fs.cardConfig 8192 card.size) 0 65536 1024 := by
  obtain ⟨card, reachable, ready, sectors⟩ := wide_card_reached
  have size : card.size = 2199022731264 := by
    rw [Driver.SDCard.size, sectors]
    rfl
  refine ⟨card, reachable, ready, ?_⟩
  rw [size]
  have start : (0 : UInt32) < (freshWorld.fs.cardConfig 8192 2199022731264).blockCount := by decide
  have inside : 1024 < (freshWorld.fs.cardConfig 8192 2199022731264).blockCount := by decide
  refine ⟨start, inside, by decide, fun right => ?_⟩
  have fit := (lookahead_bit_iff freshWorld.fs 8192 2199022731264 0 65536 1024 start inside).mp right
  rcases fit.marking (by decide) with small | far
  · exact absurd small (by decide)
  · exact absurd far (by decide)

theorem high_capacity_bits : ∃ card : Driver.SDCard, card.Reachable ∧ card.isInitialized = true ∧
    BitRight (freshWorld.fs.cardConfig 8192 card.size) 15523839 65536 7 := by
  obtain ⟨card, reachable, ready, -, sectors, -⟩ := Driver.high_capacity_card_reached
  have size : card.size = 7948206080 := by
    rw [Driver.SDCard.size, sectors]
    rfl
  refine ⟨card, reachable, ready, ?_⟩
  rw [size]
  exact (lookahead_bit_iff freshWorld.fs 8192 7948206080 15523839 65536 7 (by decide) (by decide)).mpr
    ⟨fun after => absurd after (by decide), fun _ => Or.inl (by decide), fun _ => Or.inr (by decide)⟩

end SDCardFs.Wrapper

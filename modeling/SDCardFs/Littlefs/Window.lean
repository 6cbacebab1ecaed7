import SDCardFs.Littlefs.Lookahead

set_option autoImplicit false

namespace SDCardFs.Littlefs

def blockAt (cfg : Config) (off : UInt32) (steps : Nat) : UInt32 := UInt32.ofNat ((off.toNat + steps) % cfg.blockCount.toNat)

theorem blockAt_toNat (cfg : Config) (off : UInt32) (steps : Nat) (present : 0 < cfg.blockCount.toNat) :
    (blockAt cfg off steps).toNat = (off.toNat + steps) % cfg.blockCount.toNat := by
  have small := Nat.mod_lt (off.toNat + steps) present
  have count := cfg.blockCount.toNat_lt
  rw [blockAt, UInt32.toNat_ofNat']
  exact Nat.mod_eq_of_lt (by omega)

theorem blockAt_index (cfg : Config) (off index : UInt32) (present : 0 < cfg.blockCount.toNat) (small : off.toNat + index.toNat < 2 ^ 32) :
    (off + index) % cfg.blockCount = blockAt cfg off index.toNat := by
  apply UInt32.toNat_inj.mp
  rw [blockAt_toNat cfg off index.toNat present, UInt32.toNat_mod, UInt32.toNat_add, Nat.mod_eq_of_lt small]

theorem wrap_cases (count start steps : Nat) (startSmall : start < count) (stepsSmall : steps < count) :
    (start + steps) % count = start + steps ∧ start + steps < count ∨
      (start + steps) % count = start + steps - count ∧ count ≤ start + steps := by
  by_cases wraps : start + steps < count
  · exact Or.inl ⟨Nat.mod_eq_of_lt wraps, wraps⟩
  · right
    refine ⟨?_, by omega⟩
    rw [Nat.mod_eq_sub_mod (by omega), Nat.mod_eq_of_lt (by omega)]

-- lfs_alloc_lookahead finds the index again, if block numbers take 31 bits.
theorem lookahead_off_blockAt (cfg : Config) (off index : UInt32) (start : off < cfg.blockCount) (inside : index < cfg.blockCount)
    (small : cfg.blockCount.toNat ≤ 2 ^ 31) : lookaheadOff cfg off (blockAt cfg off index.toNat) = index := by
  have startNat := UInt32.lt_iff_toNat_lt.mp start
  have insideNat := UInt32.lt_iff_toNat_lt.mp inside
  have block := blockAt_toNat cfg off index.toNat (by omega)
  apply UInt32.toNat_inj.mp
  rw [lookaheadOff, UInt32.toNat_mod, UInt32.toNat_add, UInt32.toNat_sub, block]
  rcases wrap_cases _ _ _ startNat insideNat with ⟨same, before⟩ | ⟨same, after⟩
  · have sum : (2 ^ 32 - off.toNat + (off.toNat + index.toNat)) % 2 ^ 32 + cfg.blockCount.toNat = index.toNat + cfg.blockCount.toNat := by
      omega
    rw [same, sum, Nat.mod_eq_of_lt (by omega : index.toNat + cfg.blockCount.toNat < 2 ^ 32), Nat.add_mod_right]
    exact Nat.mod_eq_of_lt insideNat
  · have sum : ((2 ^ 32 - off.toNat + (off.toNat + index.toNat - cfg.blockCount.toNat)) % 2 ^ 32 + cfg.blockCount.toNat) % 2 ^ 32 =
        index.toNat := by
      omega
    rw [same, sum]
    exact Nat.mod_eq_of_lt insideNat

theorem blockAt_apart (cfg : Config) (off : UInt32) (first second : Nat) (order : first < second)
    (near : second < first + cfg.blockCount.toNat) : blockAt cfg off first ≠ blockAt cfg off second := by
  intro same
  have numbers := congrArg UInt32.toNat same
  rw [blockAt_toNat cfg off first (by omega), blockAt_toNat cfg off second (by omega)] at numbers
  have steps : (second - first) % cfg.blockCount.toNat = 0 := by
    have moved := Nat.sub_mod_eq_zero_of_mod_eq numbers.symm
    rwa [Nat.add_sub_add_left] at moved
  rw [Nat.mod_eq_of_lt (by omega)] at steps
  omega

-- The state of the window between two calls of the allocator. The blocks it
-- can still hand out are neither in use nor handed out already: those of the
-- window by their bits, and the handed out ones because ack counts down to
-- zero before the cursor comes round to them.
structure Sound (cfg : Config) (free : Free) (used : UInt32 → Prop) (handed : List UInt32) : Prop where
  cursor : free.i.toNat ≤ free.size.toNat
  bound : free.size.toNat ≤ cfg.blockCount.toNat
  left : free.size.toNat - free.i.toNat ≤ free.ack.toNat
  acked : free.ack.toNat ≤ cfg.blockCount.toNat
  start : free.size = 0 ∨ free.off < cfg.blockCount
  clear : ∀ index, free.i ≤ index → index < free.size → free.bit index = false → ¬ used (blockAt cfg free.off index.toNat)
  apart : ∀ turn, turn < free.ack.toNat → blockAt cfg free.off (free.i.toNat + turn) ∉ handed

-- The blocks handed out since the last lfs_alloc_ack, after an lfs_alloc. One
-- without a block either had nothing left to ack, or went through
-- lfs_alloc_reset, which acks.
def handedAfter (free : Free) (handed : List UInt32) : Option UInt32 → List UInt32
  | some block => block :: handed
  | none => if free.ack = 0 then handed else []

-- No clear bit is left to find between the cursor and the window's end.
def Free.full (free : Free) : Bool := (List.range (free.size - free.i).toNat).all fun steps => free.bit (free.i + UInt32.ofNat steps)

theorem full_bit (free : Free) (full : free.full = true) (index : UInt32) (after : free.i ≤ index) (inside : index < free.size) :
    free.bit index = true := by
  have afterNat := UInt32.le_iff_toNat_le.mp after
  have insideNat := UInt32.lt_iff_toNat_lt.mp inside
  have turns : (free.size - free.i).toNat = free.size.toNat - free.i.toNat :=
    UInt32.toNat_sub_of_le _ _ (UInt32.le_iff_toNat_le.mpr (by omega))
  have steps : free.i + UInt32.ofNat (index.toNat - free.i.toNat) = index := by
    apply UInt32.toNat_inj.mp
    have size := index.toNat_lt
    rw [UInt32.toNat_add, UInt32.toNat_ofNat']
    omega
  have known := List.all_eq_true.mp full (index.toNat - free.i.toNat) (List.mem_range.mpr (by omega))
  rwa [steps] at known

def Free.skip (free : Free) (steps : Nat) : Free :=
  { free with i := free.i + UInt32.ofNat steps, ack := free.ack - UInt32.ofNat steps }

theorem skip_zero (free : Free) : free.skip 0 = free := by
  simp [Free.skip]

theorem skip_skip (free : Free) (first second : Nat) : (free.skip first).skip second = free.skip (first + second) := by
  have acks : free.ack - UInt32.ofNat first - UInt32.ofNat second = free.ack - (UInt32.ofNat first + UInt32.ofNat second) := by
    grind
  simp only [Free.skip, UInt32.ofNat_add, UInt32.add_assoc, acks]

theorem skip_one (free : Free) : free.skip 1 = { free with i := free.i + 1, ack := free.ack - 1 } := rfl

theorem skip_cursor (free : Free) (steps : Nat) (cursor : free.i.toNat ≤ free.size.toNat) (within : steps ≤ free.size.toNat - free.i.toNat) :
    (free.skip steps).i.toNat = free.i.toNat + steps := by
  have size := free.size.toNat_lt
  exact UInt32.toNat_add _ _ |>.trans (by rw [UInt32.toNat_ofNat']; omega)

theorem skip_acked (free : Free) (steps : Nat) (within : steps ≤ free.ack.toNat) : (free.skip steps).ack.toNat = free.ack.toNat - steps := by
  have ack := free.ack.toNat_lt
  exact UInt32.toNat_sub _ _ |>.trans (by rw [UInt32.toNat_ofNat']; omega)

theorem alloc_skip_steps (turns : Nat) : ∀ (free : Free), ∃ steps, steps ≤ turns ∧ allocSkip turns free = free.skip steps := by
  induction turns with
  | zero =>
      intro free
      exact ⟨0, Nat.le_refl _, (skip_zero free).symm⟩
  | succ turns ih =>
      intro free
      rw [allocSkip]
      by_cases taken : free.bit free.i = true
      · obtain ⟨steps, within, same⟩ := ih (free.skip 1)
        rw [if_pos taken]
        exact ⟨1 + steps, by omega, by rw [← skip_one, same, skip_skip]⟩
      · rw [if_neg taken]
        exact ⟨0, by omega, (skip_zero free).symm⟩

-- How far a search of the window goes: past its end, or just past a clear bit.
theorem alloc_window_steps (cfg : Config) (turns : Nat) : ∀ (free : Free),
    allocWindow cfg turns free = (none, free.skip turns) ∨
      ∃ found steps, found < steps ∧ steps ≤ turns ∧ free.bit (free.i + UInt32.ofNat found) = false ∧
        allocWindow cfg turns free = (some ((free.off + (free.i + UInt32.ofNat found)) % cfg.blockCount), free.skip steps) := by
  induction turns with
  | zero =>
      intro free
      exact Or.inl (by rw [allocWindow, skip_zero])
  | succ turns ih =>
      intro free
      rw [allocWindow]
      dsimp only
      rw [← skip_one]
      by_cases taken : free.bit free.i = true
      · have same : (free.skip 1).bit free.i = true := taken
        rw [if_pos same]
        rcases ih (free.skip 1) with ended | ⟨found, steps, before, within, clear, ran⟩
        · left
          rw [ended, skip_skip, Nat.add_comm]
        · right
          have index : (free.skip 1).i + UInt32.ofNat found = free.i + UInt32.ofNat (found + 1) := by
            rw [UInt32.ofNat_add, UInt32.add_comm (UInt32.ofNat found), ← UInt32.add_assoc]
            rfl
          rw [index] at clear ran
          refine ⟨found + 1, steps + 1, by omega, by omega, clear, ?_⟩
          rw [ran, skip_skip, Nat.add_comm 1]
          rfl
      · have same : ¬ (free.skip 1).bit free.i = true := taken
        rw [if_neg same]
        obtain ⟨steps, within, skipped⟩ := alloc_skip_steps turns (free.skip 1)
        right
        refine ⟨0, 1 + steps, by omega, by omega, ?_, ?_⟩
        · simpa using taken
        · rw [skipped, skip_skip]
          simp [Free.skip]

section
variable {cfg : Config} {free : Free} {used : UInt32 → Prop} {handed : List UInt32}

theorem Sound.skip_i (sound : Sound cfg free used handed) (steps : Nat) (within : steps ≤ free.size.toNat - free.i.toNat) :
    (free.skip steps).i.toNat = free.i.toNat + steps :=
  skip_cursor free steps sound.cursor within

theorem Sound.skip_ack (sound : Sound cfg free used handed) (steps : Nat) (within : steps ≤ free.size.toNat - free.i.toNat) :
    (free.skip steps).ack.toNat = free.ack.toNat - steps :=
  skip_acked free steps (Nat.le_trans within sound.left)

theorem sound_skip (sound : Sound cfg free used handed) (steps : Nat) (within : steps ≤ free.size.toNat - free.i.toNat) :
    Sound cfg (free.skip steps) used handed := by
  have i := sound.skip_i steps within
  have ack := sound.skip_ack steps within
  have cursor := sound.cursor
  have left := sound.left
  have acked := sound.acked
  refine ⟨?_, sound.bound, ?_, ?_, sound.start, ?_, ?_⟩
  · rw [i]
    exact (by omega : free.i.toNat + steps ≤ free.size.toNat)
  · rw [i, ack]
    exact (by omega : free.size.toNat - (free.i.toNat + steps) ≤ free.ack.toNat - steps)
  · rw [ack]
    omega
  · intro index after inside clear
    rw [UInt32.le_iff_toNat_le, i] at after
    exact sound.clear index (UInt32.le_iff_toNat_le.mpr (by omega)) inside clear
  · intro turn before
    rw [ack] at before
    rw [i, Nat.add_assoc]
    exact sound.apart (steps + turn) (by omega)

theorem sound_found (sound : Sound cfg free used handed) (small : cfg.blockCount.toNat ≤ 2 ^ 31) (found steps : Nat) (before : found < steps)
    (within : steps ≤ free.size.toNat - free.i.toNat) (clear : free.bit (free.i + UInt32.ofNat found) = false) :
    ¬ used ((free.off + (free.i + UInt32.ofNat found)) % cfg.blockCount) ∧
      (free.off + (free.i + UInt32.ofNat found)) % cfg.blockCount ∉ handed ∧
      Sound cfg (free.skip steps) used ((free.off + (free.i + UInt32.ofNat found)) % cfg.blockCount :: handed) := by
  have cursor := sound.cursor
  have bound := sound.bound
  have left := sound.left
  have acked := sound.acked
  have index : (free.i + UInt32.ofNat found).toNat = free.i.toNat + found := sound.skip_i found (by omega)
  have present : 0 < cfg.blockCount.toNat := by omega
  have start : free.off < cfg.blockCount := by
    rcases sound.start with empty | start
    · rw [empty] at within
      exact absurd within (by simp only [UInt32.toNat_zero]; omega)
    · exact start
  have startNat := UInt32.lt_iff_toNat_lt.mp start
  rw [blockAt_index cfg free.off _ present (by rw [index]; omega)]
  have kept := sound_skip sound steps within
  refine ⟨?_, ?_, ⟨kept.cursor, kept.bound, kept.left, kept.acked, kept.start, kept.clear, ?_⟩⟩
  · apply sound.clear _ _ _ clear
    · rw [UInt32.le_iff_toNat_le, index]
      omega
    · rw [UInt32.lt_iff_toNat_lt, index]
      omega
  · rw [index]
    exact sound.apart found (by omega)
  · intro turn soon member
    rw [sound.skip_ack steps within] at soon
    rcases List.mem_cons.mp member with same | earlier
    · rw [sound.skip_i steps within, index] at same
      exact blockAt_apart cfg free.off _ _ (by omega) (by omega) same.symm
    · exact kept.apart turn (by rw [sound.skip_ack steps within]; exact soon) earlier

theorem sound_reset (lfs : Lfs) (used : UInt32 → Prop) (handed : List UInt32) :
    Sound cfg (lfsAllocReset cfg lfs).free used (handedAfter (lfsAllocReset cfg lfs).free handed none) := by
  refine ⟨Nat.le_refl _, Nat.zero_le _, Nat.zero_le _, Nat.le_refl _, Or.inl rfl, ?_, ?_⟩
  · intro index _ inside
    exact absurd inside (UInt32.not_lt.mpr UInt32.zero_le)
  · intro turn soon
    have some : (lfsAllocReset cfg lfs).free.ack ≠ 0 := fun spent => by simp [spent] at soon
    simp [handedAfter, some]

theorem sound_ack (sound : Sound cfg free used handed) : Sound cfg (lfsAllocAck cfg free) used [] := by
  have bound := sound.bound
  refine ⟨sound.cursor, sound.bound, ?_, Nat.le_refl _, sound.start, sound.clear, ?_⟩
  · exact (by omega : free.size.toNat - free.i.toNat ≤ cfg.blockCount.toNat)
  · intro turn _ member
    cases member

theorem sound_change (sound : Sound cfg free used handed) (later : UInt32 → Prop)
    (allocated : ∀ block, later block → used block ∨ block ∈ handed) : Sound cfg free later handed := by
  refine ⟨sound.cursor, sound.bound, sound.left, sound.acked, sound.start, ?_, sound.apart⟩
  intro index after inside clear member
  have left := sound.left
  have afterNat := UInt32.le_iff_toNat_le.mp after
  have insideNat := UInt32.lt_iff_toNat_lt.mp inside
  rcases allocated _ member with old | new
  · exact sound.clear index after inside clear old
  · have apart := sound.apart (index.toNat - free.i.toNat) (by omega)
    rw [Nat.add_sub_cancel' afterNat] at apart
    exact apart new

theorem sound_marks (sound : Sound cfg free used handed) (log : List UInt32) : Sound cfg (marks cfg log free) used handed := by
  obtain ⟨off, size, i, ack⟩ := marks_registers cfg log free
  refine ⟨?_, ?_, ?_, ?_, ?_, ?_, ?_⟩
  · rw [i, size]
    exact sound.cursor
  · rw [size]
    exact sound.bound
  · rw [size, i, ack]
    exact sound.left
  · rw [ack]
    exact sound.acked
  · rw [size, off]
    exact sound.start
  · rw [i, size, off]
    intro index after inside clear
    apply sound.clear index after inside
    by_cases set : free.bit index = true
    · rw [(marks_bit cfg log free index inside).mpr (Or.inr set)] at clear
      cases clear
    · simpa using set
  · rw [ack, off, i]
    exact sound.apart

theorem sound_uncounted (sound : Sound cfg free used handed) : Sound cfg free used [] :=
  ⟨sound.cursor, sound.bound, sound.left, sound.acked, sound.start, sound.clear, fun _ _ member => nomatch member⟩

theorem sound_full (sound : Sound cfg free used handed) (full : free.full = true) (later : UInt32 → Prop) : Sound cfg free later handed := by
  refine ⟨sound.cursor, sound.bound, sound.left, sound.acked, sound.start, ?_, sound.apart⟩
  intro index after inside clear
  rw [full_bit free full index after inside] at clear
  cases clear

theorem advance_off (sound : Sound cfg free used handed) (small : cfg.blockCount.toNat ≤ 2 ^ 31) (present : 0 < cfg.blockCount.toNat) :
    (freeAdvance cfg free).off = blockAt cfg free.off free.size.toNat := by
  have bound := sound.bound
  have near : free.off.toNat + free.size.toNat < 2 ^ 32 := by
    rcases sound.start with empty | start
    · rw [empty]
      exact free.off.toNat_lt
    · have startNat := UInt32.lt_iff_toNat_lt.mp start
      have count := cfg.blockCount.toNat_lt
      have size := free.size.toNat_lt
      omega
  exact blockAt_index cfg free.off free.size present near

-- The next window, before anything is marked in it. Moving on before the end
-- passes over blocks that ack goes on counting.
theorem sound_advance (sound : Sound cfg free used handed) (small : cfg.blockCount.toNat ≤ 2 ^ 31) (passed : free.i = free.size ∨ handed = []) :
    Sound cfg (freeAdvance cfg free) (fun _ => False) handed := by
  have acked := sound.acked
  have window : (freeAdvance cfg free).size.toNat ≤ free.ack.toNat := UInt32.le_iff_toNat_le.mp (lfsMin_le (8 * cfg.lookaheadSize) free.ack).2
  refine ⟨Nat.zero_le _, by omega, Nat.le_trans (Nat.sub_le _ _) window, acked, ?_, fun _ _ _ _ impossible => impossible, ?_⟩
  · by_cases present : 0 < cfg.blockCount.toNat
    · right
      rw [UInt32.lt_iff_toNat_lt, advance_off sound small present, blockAt_toNat cfg _ _ present]
      exact Nat.mod_lt _ present
    · left
      apply UInt32.toNat_inj.mp
      rw [UInt32.toNat_zero]
      omega
  · intro turn soon
    rcases passed with ended | none
    · have soonNat : turn < free.ack.toNat := soon
      have present : 0 < cfg.blockCount.toNat := by omega
      have same : blockAt cfg (freeAdvance cfg free).off ((freeAdvance cfg free).i.toNat + turn) = blockAt cfg free.off (free.i.toNat + turn) := by
        apply UInt32.toNat_inj.mp
        rw [blockAt_toNat cfg _ _ present, blockAt_toNat cfg _ _ present, advance_off sound small present, blockAt_toNat cfg _ _ present,
          Nat.mod_add_mod, ended, Nat.add_assoc]
        simp [freeAdvance]
      rw [same]
      exact sound.apart turn soon
    · rw [none]
      exact List.not_mem_nil

theorem sound_refill (sound : Sound cfg free used handed) (small : cfg.blockCount.toNat ≤ 2 ^ 31) (words : cfg.lookaheadSize % 8 = 0)
    (ended : free.i = free.size) (log : List UInt32) (later : UInt32 → Prop) (covers : ∀ block, later block → block ∈ log) :
    Sound cfg (marks cfg log (freeAdvance cfg free)) later handed := by
  have moved := sound_advance sound small (Or.inl ended)
  have kept := sound_marks moved log
  refine ⟨kept.cursor, kept.bound, kept.left, kept.acked, kept.start, ?_, kept.apart⟩
  intro index _ before clear member
  have exact := (refill_exact cfg free log words index before).mpr
  obtain ⟨off, size, -, -⟩ := marks_registers cfg log (freeAdvance cfg free)
  rw [size] at before
  rw [off] at exact member
  have beforeNat := UInt32.lt_iff_toNat_lt.mp before
  have bound := moved.bound
  have inside : (freeAdvance cfg free).off < cfg.blockCount := by
    rcases moved.start with empty | inside
    · rw [empty] at before
      exact absurd before (UInt32.not_lt.mpr UInt32.zero_le)
    · exact inside
  have known := exact ⟨_, covers _ member, lookahead_off_blockAt cfg _ index inside (UInt32.lt_iff_toNat_lt.mpr (by omega)) small⟩
  rw [clear] at known
  cases known

end

end SDCardFs.Littlefs

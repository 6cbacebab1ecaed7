import SDCardFs.Littlefs.Refill
import SDCardFs.Littlefs.Returns
import SDCardFs.Wrapper.MountAsync

set_option autoImplicit false

namespace SDCardFs.Wrapper

open SDCardFs.Littlefs

def lfsReadSize : UInt32 := 512
def lfsProgSize : UInt32 := 512
def lfsLookahead : UInt32 := 8192

-- What lfs.h and the comments of lfs_init ask of a configuration, the buffers
-- being the members readBuf, progBuf and lkahBuf.
structure Sane (cfg : Config) : Prop where
  readSize : cfg.readSize ≠ 0
  progSize : cfg.progSize ≠ 0
  cacheSize : cfg.cacheSize ≠ 0
  reads : cfg.cacheSize % cfg.readSize = 0
  progs : cfg.cacheSize % cfg.progSize = 0
  caches : cfg.blockSize % cfg.cacheSize = 0
  cycles : cfg.blockCycles ≠ 0
  lookahead : 0 < cfg.lookaheadSize
  words : cfg.lookaheadSize % 8 = 0
  lkahBuf : cfg.lookaheadSize ≤ lfsLookahead
  readBuf : cfg.cacheSize ≤ lfsReadSize
  progBuf : cfg.cacheSize ≤ lfsProgSize

section
variable {Media : Type}

-- The lookahead an act passes on, and the configuration it builds where the
-- card's init succeeds.
def World.requested (world : World Media) : Act Media → UInt32
  | .format _ lookahead => lookahead
  | _ => world.fs.lookahead

def World.builds (world : World Media) (act : Act Media) : Option Config :=
  let built (card : SdCard Media) : Option Config :=
    let (err, media) := card.init world.media
    if err ≠ 0 then none else some (world.fs.cardConfig (world.requested act) (card.size media))
  match act with
  | .mountAsync card => built card
  | .mount card => built card
  | .format card _ => built card
  | _ => none

end

theorem npw2_step (a limit amount shift : UInt32) (bits : Nat) (limitBits : limit.toNat + 1 = 2 ^ bits) (small : a.toNat < 2 ^ (bits + bits))
    (few : bits < 32) (shiftBits : ((1 : UInt32) <<< amount).toNat = bits) (none : (0 : UInt32) <<< amount = 0)
    (chosen : shift = (if a > limit then (1 : UInt32) else 0) <<< amount) : (a >>> shift).toNat < 2 ^ bits ∧ shift.toNat ≤ bits := by
  rw [chosen]
  split
  · rw [UInt32.toNat_shiftRight, shiftBits, Nat.mod_eq_of_lt few, Nat.shiftRight_eq_div_pow]
    exact ⟨Nat.div_lt_of_lt_mul (by rwa [← Nat.pow_add]), Nat.le_refl _⟩
  · rename_i less
    have bound := UInt32.le_iff_toNat_le.mp (UInt32.not_lt.mp less)
    rw [none]
    simp
    omega

theorem or_small (left right : UInt32) (leftSmall : left.toNat < 2 ^ 5) (rightSmall : right.toNat < 2 ^ 5) : (left ||| right).toNat < 2 ^ 5 := by
  rw [UInt32.toNat_or]
  exact Nat.or_lt_two_pow leftSmall rightSmall

theorem npw2_or (first second third fourth rest : UInt32) (top : first.toNat ≤ 16) (upper : second.toNat ≤ 8) (lower : third.toNat ≤ 4)
    (last : fourth.toNat ≤ 2) (left : rest.toNat < 2 ^ 2) : ((first ||| second ||| third ||| fourth ||| (rest >>> 1)) + 1).toNat ≤ 32 := by
  have half : (rest >>> 1).toNat < 2 ^ 5 := by
    rw [UInt32.toNat_shiftRight, Nat.shiftRight_eq_div_pow]
    exact Nat.lt_of_le_of_lt (Nat.div_le_self _ _) (by omega)
  have two := or_small first second (by omega) (by omega)
  have four := or_small _ fourth (or_small _ third two (by omega)) (by omega)
  have all := or_small _ _ four half
  rw [UInt32.toNat_add]
  simp only [UInt32.reduceToNat]
  omega

theorem npw2_bound (a : UInt32) : (lfsNpw2 a).toNat ≤ 32 := by
  obtain ⟨first, top⟩ := npw2_step (a - 1) 0xffff 4 _ 16 rfl (a - 1).toNat_lt (by decide) rfl rfl rfl
  obtain ⟨second, upper⟩ := npw2_step _ 0xff 3 _ 8 rfl first (by decide) rfl rfl rfl
  obtain ⟨third, lower⟩ := npw2_step _ 0xf 2 _ 4 rfl second (by decide) rfl rfl rfl
  obtain ⟨fourth, last⟩ := npw2_step _ 0x3 1 _ 2 rfl third (by decide) rfl rfl rfl
  exact npw2_or _ _ _ _ _ top upper lower last fourth

section
variable {Media : Type}

theorem card_config_accepted (fs : LittleFS Media) (lookahead : UInt32) (size : UInt64) :
    Accepted (fs.cardConfig lookahead size) ↔ lookahead ≠ 0 ∧ lookahead % 8 = 0 := by
  have enough : 512 ≤ (fs.cardConfig lookahead size).blockSize := (at_least_positive fs.blockSize Driver.blockSize (by decide)).2
  constructor
  · intro accepted
    exact ⟨fun zero => accepted.words (Or.inl zero), Decidable.not_not.mp fun odd => accepted.words (Or.inr odd)⟩
  · rintro ⟨positive, words⟩
    refine ⟨card_config_read_size fs lookahead size, ?_, show lfsBlockcycles ≠ 0 by decide, ?_, show ¬ (0 : UInt32) > lfsNameMax by decide,
      show ¬ (0 : UInt32) > lfsFileMax by decide⟩
    · have bits := npw2_bound (0xffffffff / ((fs.cardConfig lookahead size).blockSize - 2 * 4))
      have room := UInt32.le_iff_toNat_le.mp enough
      rw [gt_iff_lt, UInt32.lt_iff_toNat_lt, UInt32.toNat_mul]
      simp only [UInt32.reduceToNat] at room ⊢
      omega
    · rintro (zero | odd)
      · exact positive zero
      · exact odd words

-- 512 raised to the size asked for is 512 only where no more is asked for.
theorem at_least_block (size : UInt32) : 512 % atLeast Driver.blockSize size = 0 ↔ size ≤ 512 := by
  rw [atLeast, Driver.blockSize]
  split
  · rename_i less
    rw [UInt32.lt_iff_toNat_lt] at less
    rw [← UInt32.toNat_inj, UInt32.toNat_mod, UInt32.le_iff_toNat_le, Nat.mod_eq_of_lt less]
    simp only [UInt32.reduceToNat] at less ⊢
    omega
  · rename_i small
    exact ⟨fun _ => UInt32.not_lt.mp small, fun _ => rfl⟩

theorem at_least_multiple (size : UInt32) : atLeast Driver.blockSize size % 512 = 0 ↔ size ≤ 512 ∨ size % 512 = 0 := by
  rw [atLeast, Driver.blockSize]
  split
  · rename_i less
    refine ⟨Or.inr, fun cases => cases.resolve_left fun small => ?_⟩
    exact UInt32.not_le.mpr less small
  · rename_i small
    exact ⟨fun _ => Or.inl (UInt32.not_lt.mp small), fun _ => rfl⟩

theorem card_config_sane (fs : LittleFS Media) (lookahead : UInt32) (size : UInt64) (positive : lookahead ≠ 0) (words : lookahead % 8 = 0) :
    Sane (fs.cardConfig lookahead size) ↔
      fs.readSize ≤ 512 ∧ fs.progSize ≤ 512 ∧ (fs.blockSize ≤ 512 ∨ fs.blockSize % 512 = 0) ∧ lookahead ≤ lfsLookahead := by
  constructor
  · intro sane
    exact ⟨(at_least_block _).mp sane.reads, (at_least_block _).mp sane.progs, (at_least_multiple _).mp sane.caches, sane.lkahBuf⟩
  · rintro ⟨reads, progs, caches, fits⟩
    have progSize := (at_least_positive fs.progSize Driver.blockSize (by decide)).1
    exact
      { readSize := card_config_read_size fs lookahead size
        progSize := UInt32.pos_iff_ne_zero.mp progSize
        cacheSize := show lfsCacheSize ≠ 0 by decide
        reads := (at_least_block _).mpr reads
        progs := (at_least_block _).mpr progs
        caches := (at_least_multiple _).mpr caches
        cycles := show lfsBlockcycles ≠ 0 by decide
        lookahead := UInt32.pos_iff_ne_zero.mpr positive
        words := words
        lkahBuf := fits
        readBuf := show lfsCacheSize ≤ lfsReadSize by decide
        progBuf := show lfsCacheSize ≤ lfsProgSize by decide }

theorem card_builds (world : World Media) (card : SdCard Media) (lookahead : UInt32) (cfg : Config)
    (built : (if (card.init world.media).1 ≠ 0 then none
      else some (world.fs.cardConfig lookahead (card.size (card.init world.media).2))) = some cfg) :
    (card.init world.media).1 = 0 ∧ world.fs.cardConfig lookahead (card.size (card.init world.media).2) = cfg := by
  split at built
  · cases built
  · rename_i done
    exact ⟨Decidable.not_not.mp done, Option.some.inj built⟩

theorem built_config (world : World Media) (act : Act Media) (cfg : Config) (built : world.builds act = some cfg) :
    ∃ size, cfg = world.fs.cardConfig (world.requested act) size := by
  cases act with
  | mountAsync card => exact ⟨_, (card_builds world card _ cfg built).2.symm⟩
  | mount card => exact ⟨_, (card_builds world card _ cfg built).2.symm⟩
  | format card lookahead => exact ⟨_, (card_builds world card _ cfg built).2.symm⟩
  | unmount => cases built
  | operation call => cases built
  | tick => cases built

theorem accepted_geometry_iff (world : World Media) (act : Act Media) (cfg : Config) (device : Device) (lfs : Lfs) (rcache : Cache)
    (built : world.builds act = some cfg) :
    ((∃ after last, exec cfg device (lfsInit cfg) lfs rcache = some (0, after, last)) → Sane cfg) ↔
      (world.requested act = 0 ∨ world.requested act % 8 ≠ 0) ∨
        (world.fs.readSize ≤ 512 ∧ world.fs.progSize ≤ 512 ∧ (world.fs.blockSize ≤ 512 ∨ world.fs.blockSize % 512 = 0) ∧
          world.requested act ≤ lfsLookahead) := by
  obtain ⟨size, rfl⟩ := built_config world act cfg built
  obtain ⟨err, after, last, init, accepts, -⟩ := init_exec (world.fs.cardConfig (world.requested act) size) device lfs rcache
  have accepted : (∃ after last, exec (world.fs.cardConfig (world.requested act) size) device
      (lfsInit (world.fs.cardConfig (world.requested act) size)) lfs rcache = some (0, after, last)) ↔
      world.requested act ≠ 0 ∧ world.requested act % 8 = 0 := by
    rw [← card_config_accepted world.fs (world.requested act) size, ← accepts, init]
    constructor
    · rintro ⟨_, _, same⟩
      exact (Prod.mk.inj (Option.some.inj same)).1
    · rintro rfl
      exact ⟨after, last, rfl⟩
  rw [accepted]
  by_cases refused : world.requested act = 0 ∨ world.requested act % 8 ≠ 0
  · refine ⟨fun _ => Or.inl refused, fun _ good => ?_⟩
    rcases refused with zero | odd
    · exact absurd zero good.1
    · exact absurd good.2 odd
  · have good : world.requested act ≠ 0 ∧ world.requested act % 8 = 0 :=
      ⟨fun zero => refused (Or.inl zero), Decidable.not_not.mp fun odd => refused (Or.inr odd)⟩
    rw [card_config_sane world.fs (world.requested act) size good.1 good.2]
    exact ⟨fun sane => Or.inr (sane good), fun cases _ => cases.resolve_left refused⟩

end

theorem oversized_lookahead_accepted : ∃ cfg after last, freshWorld.builds (.format (sdCard formattedImage) 16384) = some cfg ∧
    exec cfg (imageDevice formattedImage) (lfsInit cfg) zeroLfs zeroCache = some (0, after, last) ∧ ¬ Sane cfg := by
  obtain ⟨err, after, last, init, accepts, -⟩ :=
    init_exec (freshWorld.fs.cardConfig 16384 8192) (imageDevice formattedImage) zeroLfs zeroCache
  obtain rfl : err = 0 := accepts.mpr ((card_config_accepted freshWorld.fs 16384 8192).mpr (by decide))
  exact ⟨_, after, last, rfl, init, fun sane => absurd sane.lkahBuf (by decide)⟩

theorem default_mount_geometry : ∃ cfg, freshWorld.builds (.mount (sdCard formattedImage)) = some cfg ∧
    ((∃ after last, exec cfg (imageDevice formattedImage) (lfsInit cfg) zeroLfs zeroCache = some (0, after, last)) → Sane cfg) := by
  refine ⟨_, rfl, (accepted_geometry_iff freshWorld (.mount (sdCard formattedImage)) _ _ zeroLfs zeroCache rfl).mpr (Or.inr ?_)⟩
  decide

end SDCardFs.Wrapper

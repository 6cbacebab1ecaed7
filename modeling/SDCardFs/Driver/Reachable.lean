import SDCardFs.Driver.Capacity
import SDCardFs.Driver.Lifecycle

set_option autoImplicit false

namespace SDCardFs.Driver

-- What an SDCard object can be after any calls, whatever its card answered.
def SDCard.Reachable (card : SDCard) : Prop := ∃ uninitialised inputs, Lib.Run Calls (SDCard.fresh uninitialised) inputs card

-- CRC checks are never switched on, the erase size is a whole number of blocks
-- and the capacity in bytes stays far below 2^64.
structure SDCard.Configured (card : SDCard) : Prop where
  crcOff : card.crcOn = false
  erase : ∃ blocks, 0 < blocks ∧ card.eraseSize.toNat = 512 * blocks
  sectors : card.sectors.toNat < 2 ^ 32

def KeepsConfigured (before after : SDCard) : Prop := before.Configured → after.Configured

theorem same_configured (before after : SDCard) (crc : after.crcOn = before.crcOn) (erase : after.eraseSize = before.eraseSize)
    (sectors : after.sectors = before.sectors) : KeepsConfigured before after :=
  fun configured => ⟨crc.trans configured.crcOff, by rw [erase]; exact configured.erase, by rw [sectors]; exact configured.sectors⟩

theorem configured_on_bus : OnBus KeepsConfigured where
  reflexive card configured := configured
  transitive a b c left right configured := right (left configured)
  transfer data := Lib.ends_mono (transfer_only_bus data) fun before _ after moved => by
    rw [OnlyBus] at moved
    rw [moved]
    exact same_configured _ _ rfl rfl rfl
  setCs high := by
    intro before value after ran
    obtain ⟨-, rfl⟩ := Prod.mk.inj (Option.some.inj ran)
    exact same_configured _ _ rfl rfl rfl

theorem record_configured (event : Event) : Lib.Keeps KeepsConfigured (record event) :=
  Lib.ends_mono (record_adds event) fun before value after added => by
    rw [Adds] at added
    rw [added]
    exact same_configured _ _ rfl rfl rfl

theorem configured_on_calls : OnCalls (fun _ _ => True) KeepsConfigured where
  toOnFillers := configured_on_bus.toOnFillers
  cmd code arg isAcmd _ := Lib.ends_mono (cmd_effect code arg isAcmd) fun before answer after effect => by
    rw [effect.frame]
    exact same_configured _ _ rfl rfl rfl
  setCardType cardType := by
    intro before value after ran
    rw [set_card_type_run _ _ _ _ ran]
    exact same_configured _ _ rfl rfl rfl
  record event _ := record_configured event
  write_block buffer offset token _ := configured_on_bus.write_block (fun _ _ _ => record_configured _) buffer offset token _

theorem csd_erase_whole (csd : List UInt8) : ∃ blocks, 0 < blocks ∧ cardEraseSize csd = 512 * blocks := by
  rw [cardEraseSize]
  split
  · exact ⟨1, by decide, rfl⟩
  · exact ⟨csdField csd 45 39 + 1, by omega, rfl⟩

theorem standard_capacity_small (csd : List UInt8) (version : csdField csd 127 126 = 0) : cardSectors csd < 2 ^ 32 := by
  have sizeSmall : csdField csd 73 62 < 2 ^ 12 := csd_field_lt csd 73 62
  have multSmall : csdField csd 49 47 < 8 := csd_field_lt csd 49 47
  have lenSmall : csdField csd 83 80 < 16 := csd_field_lt csd 83 80
  have bytes : (csdField csd 73 62 + 1) * 2 ^ (csdField csd 49 47 + 2) * 2 ^ csdField csd 83 80 ≤ 2 ^ 12 * 2 ^ 9 * 2 ^ 15 :=
    Nat.mul_le_mul (Nat.mul_le_mul (by omega) (Nat.pow_le_pow_right (by decide) (by omega))) (Nat.pow_le_pow_right (by decide) (by omega))
  rw [cardSectors, if_pos version]
  omega

theorem csd_sectors_configured (csd : List UInt8) (whole : csd.length = 16) (blocks : UInt64) (eraseSize : UInt32)
    (known : csdSectors csd = some (blocks, eraseSize)) :
    blocks.toNat < 2 ^ 32 ∧ ∃ unit, 0 < unit ∧ eraseSize.toNat = 512 * unit := by
  by_cases standard : csdField csd 127 126 = 0
  · obtain ⟨_, _, decoded, sectors, erase⟩ := csd_sectors_standard csd whole standard
    obtain ⟨rfl, rfl⟩ := Prod.mk.inj (Option.some.inj (known.symm.trans decoded))
    rw [sectors, erase]
    exact ⟨standard_capacity_small csd standard, csd_erase_whole csd⟩
  · by_cases high : csdField csd 127 126 = 1
    · obtain ⟨_, decoded, shifted⟩ := csd_sectors_high csd whole high
      obtain ⟨rfl, rfl⟩ := Prod.mk.inj (Option.some.inj (known.symm.trans decoded))
      rw [shifted]
      exact ⟨Nat.mod_lt _ (by decide), 1, by decide, rfl⟩
    · have structures := csd_field_lt csd 127 126
      rw [csd_sectors_unknown csd whole (by omega)] at known
      cases known

theorem sd_sectors_configured (before after : SDCard) (blocks : UInt64) (ran : sdSectors.run before = some (blocks, after)) :
    KeepsConfigured before after ∧ blocks.toNat < 2 ^ 32 := by
  cases Lib.ends_run sd_sectors_read ran with
  | refused status r1 after failed added =>
      rw [added]
      exact ⟨same_configured _ _ rfl rfl rfl, by decide⟩
  | missed r1 after added =>
      rw [added]
      exact ⟨same_configured _ _ rfl rfl rfl, by decide⟩
  | unknown csd r1 after whole unknown added =>
      rw [added]
      exact ⟨same_configured _ _ rfl rfl rfl, by decide⟩
  | known csd r1 blocks eraseSize between whole known added =>
      obtain ⟨small, unit⟩ := csd_sectors_configured csd whole blocks eraseSize known
      rw [added]
      exact ⟨fun configured => ⟨configured.crcOff, unit, configured.sectors⟩, small⟩

theorem set_sectors_configured (sectors : UInt64) (small : sectors.toNat < 2 ^ 32) : Lib.Keeps KeepsConfigured (setSectors sectors) := by
  intro before value after ran configured
  obtain ⟨-, rfl⟩ := Prod.mk.inj (Option.some.inj ran)
  exact ⟨configured.crcOff, configured.erase, small⟩

theorem set_initialized_configured (flag : Bool) : Lib.Keeps KeepsConfigured (setInitialized flag) := by
  intro before value after ran
  obtain ⟨-, rfl⟩ := Prod.mk.inj (Option.some.inj ran)
  exact same_configured _ _ rfl rfl rfl

theorem freq_configured : Lib.Keeps KeepsConfigured freq := by
  refine configured_on_calls.bind (configured_on_calls.member _) fun sck => Lib.keeps_ite (configured_on_calls.pure _) ?_
  refine configured_on_calls.bind ?_ fun _ => configured_on_calls.pure _
  intro before value after ran
  obtain ⟨-, rfl⟩ := Prod.mk.inj (Option.some.inj ran)
  exact same_configured _ _ rfl rfl rfl

theorem finish_init_configured (err : Int32) : Lib.Keeps KeepsConfigured (finishInit err) := by
  have recorded : Lib.Keeps KeepsConfigured (record (.handshake err)) := Lib.ends_mono (record_adds _) fun before value after added => by
    rw [Adds] at added
    rw [added]
    exact same_configured _ _ rfl rfl rfl
  refine configured_on_calls.bind recorded fun _ => configured_on_calls.bind (set_initialized_configured _) fun _ => ?_
  refine Lib.keeps_ite (configured_on_calls.pure _) fun before value after ran => ?_
  obtain ⟨sectors, counted, counts, ran⟩ := (Lib.bind_run_some _ _ _ _ _).mp ran
  obtain ⟨first, small⟩ := sd_sectors_configured _ _ _ counts
  refine configured_on_calls.transitive _ _ _ first (Lib.keeps_run ?_ ran)
  refine configured_on_calls.bind (set_sectors_configured sectors small) fun _ => Lib.keeps_ite (configured_on_calls.pure _) ?_
  refine configured_on_calls.bind (configured_on_calls.cmd _ _ _ trivial) fun answer => Lib.keeps_ite (configured_on_calls.pure _) ?_
  exact configured_on_calls.bind freq_configured fun _ => Lib.keeps_ite (configured_on_calls.pure _) (configured_on_calls.pure _)

theorem calls_configured (call : DriverCall) : Lib.Keeps KeepsConfigured call.status := by
  cases call with
  | init =>
      refine configured_on_calls.bind (configured_on_calls.member _) fun flag => Lib.keeps_ite (configured_on_calls.pure _) ?_
      exact configured_on_calls.bind configured_on_calls.initialise_card fun err => finish_init_configured err
  | deinit =>
      refine configured_on_calls.bind (configured_on_calls.member _) fun flag => Lib.keeps_ite (configured_on_calls.pure _) ?_
      refine configured_on_calls.bind (set_initialized_configured _) fun _ => ?_
      exact configured_on_calls.bind (set_sectors_configured 0 (by decide)) fun _ => configured_on_calls.pure _
  | read b addr size =>
      intro before value after ran
      obtain ⟨answer, read, reads, ran⟩ := (Lib.bind_run_some _ _ _ _ _).mp ran
      obtain ⟨-, rfl⟩ := (Lib.pure_run_some _ _ _ _).mp ran
      exact Lib.ends_run (configured_on_calls.read b addr size) reads fun _ _ => ⟨trivial, trivial⟩
  | program b addr size =>
      exact Lib.ends_mono (configured_on_calls.program b addr size) fun before value after kept =>
        kept fun _ _ => ⟨fun _ => trivial, trivial, trivial⟩
  | trim addr size =>
      exact Lib.ends_mono (configured_on_calls.trim addr size) fun before value after kept =>
        kept fun _ _ => ⟨trivial, trivial, trivial⟩

theorem reachable_configured (card : SDCard) (reachable : card.Reachable) : card.Configured := by
  obtain ⟨uninitialised, inputs, ran⟩ := reachable
  refine Lib.run_invariant SDCard.Configured (fun before input after configured calls => ?_) ran
    ⟨rfl, ⟨1, by decide, rfl⟩, show UInt64.toNat 0 < 2 ^ 32 by decide⟩
  obtain ⟨status, ran⟩ := calls
  have heard : (before.hears input.2).Configured := same_configured before _ rfl rfl rfl configured
  exact Lib.keeps_run (calls_configured input.1) ran heard

theorem high_capacity_card_reached : ∃ card : SDCard, card.Reachable ∧ card.isInitialized = true ∧ card.cardType = .v2hc ∧
    card.sectors = 15523840 ∧ card.eraseSize = 512 := by
  have observed : (init.run highCapacityCard).map (fun answer =>
      (answer.2.isInitialized, answer.2.cardType, answer.2.sectors, answer.2.eraseSize)) = some (true, .v2hc, 15523840, 512) := by
    decide +kernel
  cases ran : init.run highCapacityCard with
  | none => simp [ran] at observed
  | some answer =>
      simp only [ran, Option.map_some, Option.some.injEq, Prod.mk.injEq] at observed
      exact ⟨answer.2, ⟨0, [(.init, highCapacityCard.bus.rx)], .snoc _ _ _ [] _ (.nil _) ⟨answer.1, ran⟩⟩, observed⟩

end SDCardFs.Driver

import SDCardFs.Littlefs.CardReads

set_option autoImplicit false

namespace SDCardFs.Littlefs

def Image.write (image : Image) (block : UInt32) (off : Nat) (data : List UInt8) : Image := fun other p =>
  if other = block ∧ off ≤ p.toNat ∧ p.toNat < off + data.length then data.getD (p.toNat - off) 0 else image other p

-- The read cache holds what the blocks hold but for the places that were
-- programmed since.
def CoherentBut (cfg : Config) (image : Image) (stale : UInt32 → UInt32 → Prop) (rcache : Cache) : Prop :=
  rcache.block < cfg.blockCount → ∀ p : Nat, p < rcache.size.toNat → ¬ stale rcache.block (rcache.off + UInt32.ofNat p) →
    rcache.buffer p = image rcache.block (rcache.off + UInt32.ofNat p)

theorem write_nil (image : Image) (block : UInt32) (off : Nat) : image.write block off [] = image := by
  funext other p
  rw [Image.write, if_neg]
  rintro ⟨-, least, less⟩
  rw [List.length_nil] at less
  omega

theorem write_append (image : Image) (block : UInt32) (off : Nat) (first second : List UInt8) :
    (image.write block off first).write block (off + first.length) second = image.write block off (first ++ second) := by
  funext other p
  simp only [Image.write, List.length_append]
  by_cases here : other = block
  · by_cases early : p.toNat < off + first.length
    · have before : ¬ (other = block ∧ off + first.length ≤ p.toNat ∧ p.toNat < off + first.length + second.length) := by omega
      rw [if_neg before]
      by_cases inside : off ≤ p.toNat
      · rw [if_pos ⟨here, inside, early⟩, if_pos ⟨here, inside, by omega⟩, List.getD_append _ _ _ _ (by omega)]
      · rw [if_neg fun both => inside both.2.1, if_neg fun both => inside both.2.1]
    · by_cases late : p.toNat < off + first.length + second.length
      · rw [if_pos ⟨here, by omega, late⟩, if_pos ⟨here, by omega, by omega⟩, List.getD_append_right _ _ _ _ (by omega)]
        congr 1
        omega
      · rw [if_neg fun both => late both.2.2, if_neg fun both => early both.2.2, if_neg fun both => late (by omega)]
  · rw [if_neg fun both => here both.1, if_neg fun both => here both.1, if_neg fun both => here both.1]

section
variable (cfg : Config) (image : Image) (stale : UInt32 → UInt32 → Prop)

-- A turn that brings bytes in brings those of the image, for places that are
-- not stale.
theorem turn_but (rcache : Cache) (hint block off : UInt32) (size : Nat) (valid : block < cfg.blockCount)
    (coherent : CoherentBut cfg image stale rcache) (fresh : ∀ p, p < size → ¬ stale block (off + UInt32.ofNat p)) :
    (∀ buffer start diff, bdTurn cfg none rcache hint block off size = .copy buffer start diff →
      diff ≤ size ∧ Lib.slice buffer start diff = directBytes none image block off diff) ∧
    ∀ diff, bdTurn cfg none rcache hint block off size = .bypass diff → diff ≤ size := by
  rw [bdTurn, bdTurnRcache]
  by_cases hit : rcache.covers block off = true ∧ off ≥ rcache.off
  · obtain ⟨here, bound⟩ := covers_bound rcache block off hit.1 hit.2
    rw [if_pos hit]
    refine ⟨?_, fun diff impossible => by cases impossible⟩
    intro buffer start diff copied
    cases copied
    refine ⟨Nat.min_le_left _ _, Lib.slice_congr _ _ _ _ _ fun p inside => ?_⟩
    have place : rcache.off + UInt32.ofNat ((off - rcache.off).toNat + p) = off + UInt32.ofNat p := by
      rw [UInt32.ofNat_add, UInt32.ofNat_toNat, ← UInt32.add_assoc, UInt32.add_comm rcache.off, UInt32.sub_add_cancel]
    have stored := coherent (here ▸ valid) ((off - rcache.off).toNat + p) (by omega)
    rw [place, ← here] at stored
    rw [Nat.zero_add]
    exact stored (fresh p (by omega))
  · have fewer : (if rcache.covers block off then min size (rcache.off - off).toNat else size) ≤ size := by
      split
      · exact Nat.min_le_left _ _
      · exact Nat.le_refl _
    rw [if_neg hit]
    dsimp only
    split
    · refine ⟨fun buffer start diff impossible => ?_, fun diff passed => ?_⟩
      · cases impossible
      · cases passed
        omega
    · refine ⟨fun buffer start diff impossible => ?_, fun diff impossible => ?_⟩
      · cases impossible
      · cases impossible

variable (card : Image) (same : ∀ block off, ¬ stale block off → card block off = image block off)
include same

theorem read_loop_but (hint block : UInt32) (valid : block < cfg.blockCount) (fuel : Nat) :
    ∀ (off : UInt32) (data out : List UInt8) (rcache after : Cache) (err : Int32), CoherentBut cfg image stale rcache →
    (∀ p, p < data.length → ¬ stale block (off + UInt32.ofNat p)) →
    lfsBdReadLoop cfg (imageDevice card) none hint block fuel off data rcache = some ((err, out), after) →
    err = 0 ∧ out = directBytes none image block off data.length ∧ CoherentBut cfg image stale after := by
  induction fuel with
  | zero =>
      intro off data out rcache after err coherent _ ran
      cases data with
      | nil =>
          obtain ⟨⟨rfl, rfl⟩, rfl⟩ : (0 = err ∧ out = []) ∧ rcache = after := by simpa [lfsBdReadLoop] using ran
          exact ⟨rfl, rfl, coherent⟩
      | cons byte rest => simp [lfsBdReadLoop] at ran
  | succ fuel ih =>
      intro off data out rcache after err coherent fresh ran
      cases data with
      | nil =>
          obtain ⟨⟨rfl, rfl⟩, rfl⟩ : (0 = err ∧ out = []) ∧ rcache = after := by simpa [lfsBdReadLoop] using ran
          exact ⟨rfl, rfl, coherent⟩
      | cons byte rest =>
          obtain ⟨copies, bypasses⟩ := turn_but cfg image stale rcache hint block off (byte :: rest).length valid coherent fresh
          have later (diff : Nat) (within : diff ≤ (byte :: rest).length) : ∀ p, p < ((byte :: rest).drop diff).length →
              ¬ stale block (off + UInt32.ofNat diff + UInt32.ofNat p) := by
            intro p inside
            rw [List.length_drop] at inside
            rw [UInt32.add_assoc, ← UInt32.ofNat_add]
            exact fresh _ (by omega)
          rw [lfsBdReadLoop] at ran
          cases kind : bdTurn cfg none rcache hint block off (byte :: rest).length with
          | copy buffer start diff =>
              rw [kind] at ran
              obtain ⟨within, chunk⟩ := copies buffer start diff kind
              obtain ⟨⟨⟨last, tail⟩, final⟩, rest, ends⟩ := Option.map_eq_some_iff.mp ran
              obtain ⟨⟨rfl, rfl⟩, rfl⟩ : (last = err ∧ Lib.slice buffer start diff ++ tail = out) ∧ final = after := by simpa using ends
              obtain ⟨rfl, rfl, still⟩ := ih _ _ _ _ _ _ coherent (later diff within) rest
              exact ⟨rfl, direct_chunk within chunk, still⟩
          | bypass diff =>
              rw [kind] at ran
              have within := bypasses diff kind
              simp only [imageDevice, Option.bind_some, ne_eq, not_true_eq_false, ↓reduceIte] at ran
              obtain ⟨⟨⟨last, tail⟩, final⟩, rest, ends⟩ := Option.map_eq_some_iff.mp ran
              simp only [Prod.mk.injEq] at ends
              obtain ⟨⟨rfl, rfl⟩, rfl⟩ := ends
              obtain ⟨rfl, rfl, still⟩ := ih _ _ _ _ _ _ coherent (later diff within) rest
              refine ⟨rfl, direct_chunk within (Lib.slice_congr _ _ _ _ _ fun p inside => ?_), still⟩
              have plain := same block (off + UInt32.ofNat p) (fresh p (by omega))
              simpa [ReadResult.into, inside, byteAt] using plain
          | load =>
              rw [kind] at ran
              have present : ¬ block ≥ cfg.blockCount := UInt32.not_le.mpr valid
              simp only [present, imageDevice, Option.bind_some, ne_eq, not_true_eq_false, ↓reduceIte] at ran
              apply ih _ _ _ _ _ _ _ fresh ran
              intro _ p inside fresh
              exact (if_pos ⟨inside, inside⟩).trans (same _ _ fresh)

theorem bd_read_but (paged : Paged cfg) (rcache : Cache) (hint block off : UInt32) (data : List UInt8) (hinting : Hinting hint)
    (noWrap : off.toNat + data.length < 2 ^ 32) (coherent : CoherentBut cfg image stale rcache) (aligned : Aligned cfg rcache)
    (fresh : ∀ p, p < data.length → ¬ stale block (off + UInt32.ofNat p)) :
    ∃ after, (Calls.lfsBdRead cfg none rcache hint block off data).run (deviceServer (imageDevice card)) () =
      some ((directRead cfg image none block off data, after), ()) ∧ CoherentBut cfg image stale after ∧ Aligned cfg after := by
  have always := bd_read_aligned cfg none rcache hint block off data paged hinting noWrap nofun aligned
  have answers : ∀ request state, Access.Spans cfg request → (deviceServer (imageDevice card) request state).isSome := by
    intro request state _
    cases request with
    | _ => rfl
  obtain ⟨⟨⟨err, out⟩, after⟩, final, ran, still⟩ := Lib.Prog.run_always answers _ () always
  have device := bd_read_device cfg (imageDevice card) none rcache hint block off data
  rw [ran] at device
  obtain ⟨⟨result, cache⟩, plain, ends⟩ := Option.map_eq_some_iff.mp device.symm
  cases ends
  rw [lfsBdRead] at plain
  rw [directRead]
  by_cases outside : block ≥ cfg.blockCount ∨ off + UInt32.ofNat data.length > cfg.blockSize
  · rw [if_pos outside] at plain ⊢
    obtain ⟨same, rfl⟩ := Prod.mk.inj (Option.some.inj plain)
    rw [← same] at ran
    exact ⟨rcache, ran, coherent, aligned⟩
  · rw [if_neg outside] at plain ⊢
    have valid : block < cfg.blockCount := UInt32.not_le.mp fun beyond => outside (Or.inl beyond)
    obtain ⟨rfl, rfl, kept⟩ := read_loop_but cfg image stale card same hint block valid _ off data out rcache after err coherent fresh plain
    exact ⟨after, ran, kept, still⟩

-- A request for bytes none of which is stale.
def Request.Served (stale : UInt32 → UInt32 → Prop) : Request → Prop
  | .read hint block off data => (data = [] ∨ Hinting hint) ∧ off.toNat + data.length < 2 ^ 32 ∧
      ∀ p, p < data.length → ¬ stale block (off + UInt32.ofNat p)
  | _ => False

theorem bd_read_served (paged : Paged cfg) (rcache : Cache) (hint block off : UInt32) (data : List UInt8) (hinting : data = [] ∨ Hinting hint)
    (noWrap : off.toNat + data.length < 2 ^ 32) (coherent : CoherentBut cfg image stale rcache) (aligned : Aligned cfg rcache)
    (fresh : ∀ p, p < data.length → ¬ stale block (off + UInt32.ofNat p)) :
    ∃ after, (Calls.lfsBdRead cfg none rcache hint block off data).run (deviceServer (imageDevice card)) () =
      some ((directRead cfg image none block off data, after), ()) ∧ CoherentBut cfg image stale after ∧ Aligned cfg after := by
  rcases hinting with rfl | hinting
  · refine ⟨rcache, ?_, coherent, aligned⟩
    rw [Calls.lfsBdRead, directRead]
    by_cases outside : block ≥ cfg.blockCount ∨ off + UInt32.ofNat ([] : List UInt8).length > cfg.blockSize
    · rw [if_pos outside, if_pos outside]
      rfl
    · rw [if_neg outside, if_neg outside]
      rfl
  · exact bd_read_but cfg image stale card same paged rcache hint block off data hinting noWrap coherent aligned fresh

theorem through_but {α : Type} (paged : Paged cfg) (program : Lib.Prog Request Request.Response α) :
    ∀ (rcache : Cache), program.Always (Request.Served stale) (fun _ => True) → CoherentBut cfg image stale rcache →
    Aligned cfg rcache → ∃ result after, program.run (directServer cfg image fun state _ => (0, state)) () = some (result, ()) ∧
      (program.through (Calls.readServer cfg) rcache).run (deviceServer (imageDevice card)) () = some ((result, after), ()) ∧
      CoherentBut cfg image stale after ∧ Aligned cfg after := by
  induction program with
  | done result => exact fun rcache _ coherent aligned => ⟨result, rcache, rfl, rfl, coherent, aligned⟩
  | ask request next ih =>
      intro rcache served coherent aligned
      cases request with
      | read hint block off data =>
          obtain ⟨⟨hinting, noWrap, fresh⟩, rest⟩ := served
          obtain ⟨between, ran, still, kept⟩ :=
            bd_read_served cfg image stale card same paged rcache hint block off data hinting noWrap coherent aligned fresh
          obtain ⟨result, after, direct, went, last⟩ := ih (directRead cfg image none block off data) between (rest _) still kept
          refine ⟨result, after, direct, ?_, last⟩
          refine (Lib.Prog.run_bind (deviceServer (imageDevice card)) (Calls.lfsBdRead cfg none rcache hint block off data) _ ()).trans ?_
          rw [ran]
          exact went
      | readThrough pcache hint block data short => exact absurd served.1 id
      | zeroRcache => exact absurd served.1 id
      | report block => exact absurd served.1 id
      | stir crc => exact absurd served.1 id
  | stuck => exact fun _ served => absurd served id

end

end SDCardFs.Littlefs

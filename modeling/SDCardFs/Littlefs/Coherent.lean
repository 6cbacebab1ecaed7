import SDCardFs.Littlefs.BlockDevice

set_option autoImplicit false

namespace SDCardFs.Littlefs

-- The read cache holds what the blocks hold. A block outside the device is
-- never read, so a dropped cache is coherent whatever is in it.
def Coherent (cfg : Config) (image : Image) (rcache : Cache) : Prop :=
  rcache.block < cfg.blockCount → ∀ p : Nat, p < rcache.size.toNat →
    rcache.buffer p = image rcache.block (rcache.off + UInt32.ofNat p)

instance (cfg : Config) (image : Image) (rcache : Cache) : Decidable (Coherent cfg image rcache) :=
  inferInstanceAs (Decidable (_ → ∀ p : Nat, p < rcache.size.toNat → _))

-- A byte without the read cache, a program cache going before the block.
def byteAt (pcache : Option Cache) (image : Image) (block off : UInt32) : UInt8 :=
  match pcache with
  | none => image block off
  | some pcache =>
      if block = pcache.block ∧ pcache.off ≤ off ∧ off < pcache.off + pcache.size then pcache.buffer (off - pcache.off).toNat
      else image block off

def directBytes (pcache : Option Cache) (image : Image) (block off : UInt32) (length : Nat) : List UInt8 :=
  Lib.slice (fun p => byteAt pcache image block (off + UInt32.ofNat p)) 0 length

def directRead (cfg : Config) (image : Image) (pcache : Option Cache) (block off : UInt32) (data : List UInt8) : Int32 × List UInt8 :=
  if block ≥ cfg.blockCount ∨ off + UInt32.ofNat data.length > cfg.blockSize then (lfsErrCorrupt, data)
  else (0, directBytes pcache image block off data.length)

theorem direct_bytes_add (pcache : Option Cache) (image : Image) (block off : UInt32) (first second : Nat) :
    directBytes pcache image block off (first + second) =
      directBytes pcache image block off first ++ directBytes pcache image block (off + UInt32.ofNat first) second := by
  rw [directBytes, Lib.slice_add]
  congr 1
  apply Lib.slice_congr
  intro p _
  simp only [Nat.zero_add, UInt32.ofNat_add, UInt32.add_assoc]

theorem direct_bytes_length (pcache : Option Cache) (image : Image) (block off : UInt32) (length : Nat) :
    (directBytes pcache image block off length).length = length :=
  Lib.slice_length _ _ _

theorem direct_bytes_drop (pcache : Option Cache) (image : Image) (block off : UInt32) (first length : Nat) :
    (directBytes pcache image block off (first + length)).drop first = directBytes pcache image block (off + UInt32.ofNat first) length := by
  rw [direct_bytes_add, List.drop_left' (direct_bytes_length _ _ _ _ _)]

theorem direct_bytes_take (pcache : Option Cache) (image : Image) (block off : UInt32) (first length : Nat) :
    (directBytes pcache image block off (first + length)).take first = directBytes pcache image block off first := by
  rw [direct_bytes_add, List.take_left' (direct_bytes_length _ _ _ _ _)]

theorem offset_toNat (off : UInt32) (p : Nat) (small : off.toNat + p < 2 ^ 32) : (off + UInt32.ofNat p).toNat = off.toNat + p := by
  rw [UInt32.toNat_add, UInt32.toNat_ofNat']
  omega

theorem covers_bound (cache : Cache) (block off : UInt32) (covered : cache.covers block off = true) (after : off ≥ cache.off) :
    block = cache.block ∧ (off - cache.off).toNat + (cache.size - (off - cache.off)).toNat ≤ cache.size.toNat := by
  have parts : block = cache.block ∧ off < cache.off + cache.size := by simpa [Cache.covers] using covered
  refine ⟨parts.1, ?_⟩
  have less := UInt32.lt_iff_toNat_lt.mp parts.2
  have start := UInt32.le_iff_toNat_le.mp after
  have offSmall := off.toNat_lt
  have startSmall := cache.off.toNat_lt
  have sizeSmall := cache.size.toNat_lt
  rw [UInt32.toNat_add] at less
  simp only [UInt32.toNat_sub]
  omega

-- What a turn of the read loop brings in is what is there: the bytes of the
-- device in front of a program cache's stretch, or that stretch itself.
def TurnDirect (pcache : Option Cache) (image : Image) (block off : UInt32) (size : Nat) : BdTurn → Prop
  | .copy buffer start diff => diff ≤ size ∧ ∀ p, p < diff → buffer (start + p) = byteAt pcache image block (off + UInt32.ofNat p)
  | .bypass diff => diff ≤ size ∧ ∀ p, p < diff → image block (off + UInt32.ofNat p) = byteAt pcache image block (off + UInt32.ofNat p)
  | .load => True

theorem rcache_turn_direct (cfg : Config) (image : Image) (pcache : Option Cache) (rcache : Cache) (hint block off : UInt32) (size diff : Nat)
    (valid : block < cfg.blockCount) (coherent : Coherent cfg image rcache) (within : diff ≤ size)
    (plain : ∀ p, p < diff → image block (off + UInt32.ofNat p) = byteAt pcache image block (off + UInt32.ofNat p)) :
    TurnDirect pcache image block off size (bdTurnRcache cfg rcache hint block off size diff) := by
  by_cases hit : rcache.covers block off = true ∧ off ≥ rcache.off
  · obtain ⟨same, bound⟩ := covers_bound rcache block off hit.1 hit.2
    rw [bdTurnRcache, if_pos hit]
    refine ⟨Nat.le_trans (Nat.min_le_left _ _) within, ?_⟩
    intro p inside
    have stored := coherent (same ▸ valid) ((off - rcache.off).toNat + p) (by omega)
    rw [← same, UInt32.ofNat_add, UInt32.ofNat_toNat, ← UInt32.add_assoc, UInt32.add_comm rcache.off, UInt32.sub_add_cancel] at stored
    exact stored.trans (plain p (by omega))
  · have fewer : (if rcache.covers block off then min diff (rcache.off - off).toNat else diff) ≤ diff := by
      split
      · exact Nat.min_le_left _ _
      · exact Nat.le_refl _
    rw [bdTurnRcache, if_neg hit]
    dsimp only
    split
    · exact ⟨by omega, fun p inside => plain p (by omega)⟩
    · trivial

theorem turn_direct (cfg : Config) (image : Image) (pcache : Option Cache) (rcache : Cache) (hint block off : UInt32) (size : Nat)
    (valid : block < cfg.blockCount) (coherent : Coherent cfg image rcache) (short : pcache = none ∨ off.toNat + size < 2 ^ 32) :
    TurnDirect pcache image block off size (bdTurn cfg pcache rcache hint block off size) := by
  cases pcache with
  | none => exact rcache_turn_direct cfg image none rcache hint block off size size valid coherent (Nat.le_refl _) (fun _ _ => rfl)
  | some pcache =>
      have small : off.toNat + size < 2 ^ 32 := by simpa using short
      by_cases hit : pcache.covers block off = true ∧ off ≥ pcache.off
      · obtain ⟨same, bound⟩ := covers_bound pcache block off hit.1 hit.2
        rw [bdTurn, if_pos hit]
        refine ⟨Nat.min_le_left _ _, ?_⟩
        intro p inside
        have parts : block = pcache.block ∧ off < pcache.off + pcache.size := by simpa [Cache.covers] using hit.1
        have start := UInt32.le_iff_toNat_le.mp hit.2
        have less := UInt32.lt_iff_toNat_lt.mp parts.2
        have moved := offset_toNat off p (by omega)
        have startSmall := pcache.off.toNat_lt
        have covered : block = pcache.block ∧ pcache.off ≤ off + UInt32.ofNat p ∧ off + UInt32.ofNat p < pcache.off + pcache.size := by
          refine ⟨same, ?_, ?_⟩
          · rw [UInt32.le_iff_toNat_le, moved]
            omega
          · rw [UInt32.lt_iff_toNat_lt, moved]
            rw [UInt32.toNat_add] at less ⊢
            simp only [UInt32.toNat_sub] at bound inside
            omega
        have index : (off + UInt32.ofNat p - pcache.off).toNat = (off - pcache.off).toNat + p := by
          rw [UInt32.toNat_sub, UInt32.toNat_sub, moved]
          omega
        rw [byteAt, if_pos covered, index]
      · rw [bdTurn, if_neg hit]
        apply rcache_turn_direct cfg image (some pcache) rcache hint block off size _ valid coherent
        · split
          · exact Nat.min_le_left _ _
          · exact Nat.le_refl _
        · intro p inside
          have apart : ¬ (block = pcache.block ∧ pcache.off ≤ off + UInt32.ofNat p ∧ off + UInt32.ofNat p < pcache.off + pcache.size) := by
            rintro ⟨same, start, stop⟩
            have within : p < size := by
              split at inside
              · omega
              · exact inside
            have moved := offset_toNat off p (by omega)
            rw [UInt32.le_iff_toNat_le, moved] at start
            by_cases covered : pcache.covers block off = true
            · have before : ¬ off ≥ pcache.off := fun after => hit ⟨covered, after⟩
              rw [if_pos covered] at inside
              rw [ge_iff_le, UInt32.le_iff_toNat_le] at before
              simp only [UInt32.toNat_sub] at inside
              have startSmall := pcache.off.toNat_lt
              omega
            · have beyond : ¬ off < pcache.off + pcache.size := fun less => covered (by simp [Cache.covers, same, less])
              rw [UInt32.lt_iff_toNat_lt] at beyond stop
              omega
          rw [byteAt, if_neg apart]

theorem direct_chunk {pcache : Option Cache} {image : Image} {block off : UInt32} {data bytes : List UInt8} {diff : Nat}
    (within : diff ≤ data.length) (chunk : bytes = directBytes pcache image block off diff) :
    bytes ++ directBytes pcache image block (off + UInt32.ofNat diff) (data.drop diff).length =
      directBytes pcache image block off data.length := by
  rw [chunk, List.length_drop, ← direct_bytes_add, Nat.add_sub_cancel' within]

theorem rest_short {pcache : Option Cache} {off : UInt32} {data : List UInt8} {diff : Nat} (within : diff ≤ data.length)
    (short : pcache = none ∨ off.toNat + data.length < 2 ^ 32) :
    pcache = none ∨ (off + UInt32.ofNat diff).toNat + (data.drop diff).length < 2 ^ 32 := by
  rcases short with plain | small
  · exact Or.inl plain
  · right
    rw [offset_toNat off diff (by omega), List.length_drop]
    omega

theorem read_loop_direct (cfg : Config) (image : Image) (pcache : Option Cache) (hint block : UInt32) (valid : block < cfg.blockCount)
    (fuel : Nat) : ∀ (off : UInt32) (data out : List UInt8) (rcache after : Cache) (err : Int32), Coherent cfg image rcache →
    (pcache = none ∨ off.toNat + data.length < 2 ^ 32) →
    lfsBdReadLoop cfg (imageDevice image) pcache hint block fuel off data rcache = some ((err, out), after) →
    err = 0 ∧ out = directBytes pcache image block off data.length ∧ Coherent cfg image after := by
  induction fuel with
  | zero =>
      intro off data out rcache after err coherent short ran
      cases data with
      | nil =>
          obtain ⟨⟨rfl, rfl⟩, rfl⟩ : (0 = err ∧ out = []) ∧ rcache = after := by simpa [lfsBdReadLoop] using ran
          exact ⟨rfl, rfl, coherent⟩
      | cons byte rest => simp [lfsBdReadLoop] at ran
  | succ fuel ih =>
      intro off data out rcache after err coherent short ran
      cases data with
      | nil =>
          obtain ⟨⟨rfl, rfl⟩, rfl⟩ : (0 = err ∧ out = []) ∧ rcache = after := by simpa [lfsBdReadLoop] using ran
          exact ⟨rfl, rfl, coherent⟩
      | cons byte rest =>
          have turn := turn_direct cfg image pcache rcache hint block off (byte :: rest).length valid coherent short
          rw [lfsBdReadLoop] at ran
          cases kind : bdTurn cfg pcache rcache hint block off (byte :: rest).length with
          | copy buffer start diff =>
              rw [kind] at turn ran
              obtain ⟨⟨⟨last, tail⟩, final⟩, rest, same⟩ := Option.map_eq_some_iff.mp ran
              obtain ⟨⟨rfl, rfl⟩, rfl⟩ : (last = err ∧ Lib.slice buffer start diff ++ tail = out) ∧ final = after := by simpa using same
              obtain ⟨rfl, rfl, still⟩ := ih _ _ _ _ _ _ coherent (rest_short turn.1 short) rest
              exact ⟨rfl, direct_chunk turn.1 (Lib.slice_congr _ _ _ _ _ fun p inside => by simpa using turn.2 p inside), still⟩
          | bypass diff =>
              rw [kind] at turn ran
              simp only [imageDevice, Option.bind_some, ne_eq, not_true_eq_false, ↓reduceIte] at ran
              obtain ⟨⟨⟨last, tail⟩, final⟩, rest, same⟩ := Option.map_eq_some_iff.mp ran
              simp only [Prod.mk.injEq] at same
              obtain ⟨⟨rfl, rfl⟩, rfl⟩ := same
              obtain ⟨rfl, rfl, still⟩ := ih _ _ _ _ _ _ coherent (rest_short turn.1 short) rest
              refine ⟨rfl, direct_chunk turn.1 (Lib.slice_congr _ _ _ _ _ fun p inside => ?_), still⟩
              simpa [ReadResult.into, inside] using turn.2 p inside
          | load =>
              rw [kind] at ran
              have present : ¬ block ≥ cfg.blockCount := UInt32.not_le.mpr valid
              simp only [present, imageDevice, Option.bind_some, ne_eq, not_true_eq_false, ↓reduceIte] at ran
              apply ih _ _ _ _ _ _ _ short ran
              intro _ p inside
              exact if_pos ⟨inside, inside⟩

theorem bd_read_direct (cfg : Config) (image : Image) (pcache : Option Cache) (rcache after : Cache) (hint block off : UInt32)
    (data : List UInt8) (answer : Int32 × List UInt8) (coherent : Coherent cfg image rcache)
    (short : pcache = none ∨ off.toNat + data.length < 2 ^ 32)
    (ran : lfsBdRead cfg (imageDevice image) pcache rcache hint block off data = some (answer, after)) :
    answer = directRead cfg image pcache block off data ∧ Coherent cfg image after := by
  rw [lfsBdRead] at ran
  rw [directRead]
  by_cases outside : block ≥ cfg.blockCount ∨ off + UInt32.ofNat data.length > cfg.blockSize
  · rw [if_pos outside] at ran ⊢
    obtain ⟨rfl, rfl⟩ := Prod.mk.inj (Option.some.inj ran)
    exact ⟨rfl, coherent⟩
  · rw [if_neg outside] at ran ⊢
    have valid : block < cfg.blockCount := UInt32.not_le.mp fun beyond => outside (Or.inl beyond)
    obtain ⟨err, out⟩ := answer
    obtain ⟨rfl, rfl, still⟩ := read_loop_direct cfg image pcache hint block valid _ off data out rcache after err coherent short ran
    exact ⟨rfl, still⟩

theorem coherent_null (cfg : Config) (image : Image) (cache : Cache) (null : cache.block = lfsBlockNull) : Coherent cfg image cache := by
  intro impossible
  rw [null, UInt32.lt_iff_toNat_lt] at impossible
  have small := cfg.blockCount.toNat_lt
  have top : lfsBlockNull.toNat = 2 ^ 32 - 1 := rfl
  omega

theorem cache_zero_coherent (cfg : Config) (image : Image) (rcache : Cache) : Coherent cfg image (lfsCacheZero cfg rcache) :=
  coherent_null cfg image _ rfl

-- The same requests with no read cache between them and the card.
def directServer {δ : Type} (cfg : Config) (image : Image) (cb : Callback δ) : Lib.Prog.Server Request Request.Response δ
  | .read _ block off data, state => some (directRead cfg image none block off data, state)
  | .readThrough pcache _ block data _, state => some (directRead cfg image (some pcache) block 0 data, state)
  | .zeroRcache, state => some ((), state)
  | .report block, state => some (cb state block)
  | .stir _, state => some ((), state)

theorem cached_simulates {δ : Type} (cfg : Config) (image : Image) (cb : Callback δ) :
    Lib.Prog.Simulates (cachedServer cfg (imageDevice image) cb) (directServer cfg image cb)
      fun cached direct => Coherent cfg image cached.1 ∧ cached.2 = direct := by
  rintro asked ⟨rcache, data⟩ _ answer ⟨after, left⟩ ⟨coherent, rfl⟩ served
  cases asked with
  | read hint block off bytes =>
      obtain ⟨⟨result, final⟩, ran, same⟩ := Option.map_eq_some_iff.mp served
      cases same
      obtain ⟨rfl, still⟩ := bd_read_direct cfg image none rcache final hint block off bytes result coherent (Or.inl rfl) ran
      exact ⟨_, rfl, still, rfl⟩
  | readThrough pcache hint block bytes short =>
      obtain ⟨⟨result, final⟩, ran, same⟩ := Option.map_eq_some_iff.mp served
      cases same
      obtain ⟨rfl, still⟩ := bd_read_direct cfg image (some pcache) rcache final hint block 0 bytes result coherent
        (Or.inr (by simpa using short)) ran
      exact ⟨_, rfl, still, rfl⟩
  | zeroRcache =>
      cases served
      exact ⟨_, rfl, cache_zero_coherent cfg image rcache, rfl⟩
  | report block =>
      cases served
      exact ⟨_, rfl, coherent, rfl⟩
  | stir crc =>
      cases served
      exact ⟨_, rfl, coherent, rfl⟩

theorem cached_run_direct {δ α : Type} (cfg : Config) (image : Image) (cb : Callback δ) (program : Lib.Prog Request Request.Response α)
    (rcache after : Cache) (data left : δ) (result : α) (coherent : Coherent cfg image rcache)
    (ran : program.run (cachedServer cfg (imageDevice image) cb) (rcache, data) = some (result, (after, left))) :
    program.run (directServer cfg image cb) data = some (result, left) ∧ Coherent cfg image after := by
  obtain ⟨final, direct, still, same⟩ :=
    Lib.Prog.run_simulates (cached_simulates cfg image cb) program (rcache, data) (after, left) data result ⟨coherent, rfl⟩ ran
  obtain rfl := same
  exact ⟨direct, still⟩

end SDCardFs.Littlefs

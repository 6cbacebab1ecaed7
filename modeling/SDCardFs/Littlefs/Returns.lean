import SDCardFs.Littlefs.Aligned
import SDCardFs.Littlefs.Traverse

set_option autoImplicit false

namespace SDCardFs.Littlefs

-- A read unit longer than any pointer pair, a cache of one unit at least,
-- blocks of one cache at least, and no sum of an offset and a hint wraps.
structure Readable (cfg : Config) : Prop where
  units : 8 < cfg.readSize.toNat
  caches : cfg.readSize.toNat ≤ cfg.cacheSize.toNat
  blocks : cfg.cacheSize.toNat ≤ cfg.blockSize.toNat
  room : 2 * cfg.blockSize.toNat + cfg.readSize.toNat ≤ 2 ^ 32

def Device.Returns (device : Device) : Prop := ∀ block off size, (device block off size).isSome

-- What serves reads of at most few bytes: a cache of one read unit at least,
-- and no sum of an offset and a hint that wraps.
structure Servable (cfg : Config) (few : Nat) : Prop where
  units : 0 < cfg.readSize.toNat
  caches : cfg.readSize.toNat ≤ cfg.cacheSize.toNat
  pointers : 8 ≤ few
  blocks : 0 < cfg.blockSize.toNat
  room : cfg.blockSize.toNat + max cfg.blockSize.toNat few + cfg.readSize.toNat ≤ 2 ^ 32

theorem readable_servable {cfg : Config} (readable : Readable cfg) : Servable cfg 8 := by
  obtain ⟨units, caches, blocks, room⟩ := readable
  exact ⟨by omega, caches, Nat.le_refl 8, by omega, by omega⟩

-- A cache that holds a block of the device starts at a read unit of it.
def OnUnit (cfg : Config) (cache : Cache) : Prop := cache.block < cfg.blockCount → cache.off.toNat % cfg.readSize.toNat = 0

-- A read either is shorter than a unit, or the caches it looks into start at one.
def Eased (cfg : Config) (few : Nat) (cache : Cache) : Prop := few < cfg.readSize.toNat ∨ OnUnit cfg cache

-- What the scan of the card asks for: a few bytes, with a hint of the same few
-- or of a whole block.
structure ShortRead (cfg : Config) (few : Nat) (hint off : UInt32) (data : List UInt8) : Prop where
  short : data.length ≤ few
  hinted : data ≠ [] → off.toNat + data.length ≤ cfg.blockSize.toNat → 1 ≤ hint.toNat
  hint : hint.toNat ≤ max cfg.blockSize.toNat few
  noWrap : off.toNat + data.length < 2 ^ 32

def Request.Short (cfg : Config) (few : Nat) : Request → Prop
  | .read hint _ off data => ShortRead cfg few hint off data
  | .readThrough pcache hint _ data _ => ShortRead cfg few hint 0 data ∧ Eased cfg few pcache
  | .zeroRcache => True
  | .report _ => True
  | .stir _ => True

-- A read of the scan copies something, goes round the cache with something, or
-- loads what misses.
def ShortTurn (pcache : Option Cache) (rcache : Cache) (block off : UInt32) (size : Nat) : BdTurn → Prop
  | .copy _ _ diff => 0 < diff ∧ diff ≤ size
  | .bypass diff => 0 < diff ∧ diff ≤ size
  | .load => ¬ Hit pcache rcache block off

-- Two places on read units are a whole number of units apart.
theorem unit_apart {unit off start : Nat} (here : off % unit = 0) (there : start % unit = 0) (before : off < start) :
    unit ≤ start - off := by
  have apart : unit ∣ start - off := Nat.dvd_sub (Nat.dvd_of_mod_eq_zero there) (Nat.dvd_of_mod_eq_zero here)
  exact Nat.le_of_dvd (by omega) apart

theorem rcache_turn_short (cfg : Config) (pcache : Option Cache) (rcache : Cache) (hint block off : UInt32) (size diff : Nat)
    (units : 0 < cfg.readSize.toNat) (valid : block < cfg.blockCount) (eased : Eased cfg size rcache)
    (whole : off.toNat % cfg.readSize.toNat = 0 → cfg.readSize.toNat ≤ size → cfg.readSize.toNat ≤ diff)
    (within : diff ≤ size) (positive : 0 < diff)
    (missed : ¬ ∃ held, pcache = some held ∧ held.covers block off = true ∧ off ≥ held.off) :
    ShortTurn pcache rcache block off size (bdTurnRcache cfg rcache hint block off size diff) := by
  rw [bdTurnRcache]
  by_cases hit : rcache.covers block off = true ∧ off ≥ rcache.off
  · rw [if_pos hit]
    have room := hit_room rcache block off hit.1
    exact ⟨by omega, by omega⟩
  · rw [if_neg hit]
    dsimp only
    split
    · rename_i bypass
      obtain ⟨-, start, long⟩ := bypass
      have here : off.toNat % cfg.readSize.toNat = 0 := by
        rw [← UInt32.toNat_mod, start]
        rfl
      have unit := whole here long
      -- The window that cuts the read short starts whole units further on.
      have left : cfg.readSize.toNat ≤ (if rcache.covers block off = true then min diff (rcache.off - off).toNat else diff) ∧
          (if rcache.covers block off = true then min diff (rcache.off - off).toNat else diff) ≤ size := by
        split
        · rename_i covered
          have onUnit := eased.resolve_left (by omega)
          obtain ⟨same, -⟩ : block = rcache.block ∧ off < rcache.off + rcache.size := by simpa [Cache.covers] using covered
          have there := onUnit (same ▸ valid)
          have before := miss_before rcache block off hit covered
          have later : off.toNat < rcache.off.toNat := by
            have notAfter : ¬ off ≥ rcache.off := fun after => hit ⟨covered, after⟩
            rw [ge_iff_le, UInt32.le_iff_toNat_le] at notAfter
            omega
          have apart := unit_apart here there later
          have distance : (rcache.off - off).toNat = rcache.off.toNat - off.toNat :=
            UInt32.toNat_sub_of_le _ _ (by rw [UInt32.le_iff_toNat_le]; omega)
          rw [distance]
          omega
        · exact ⟨unit, within⟩
      have cut := Nat.mod_lt (if rcache.covers block off = true then min diff (rcache.off - off).toNat else diff) units
      exact ⟨by omega, by omega⟩
    · exact fun found => found.elim missed hit

theorem turn_short (cfg : Config) (pcache : Option Cache) (rcache : Cache) (hint block off : UInt32) (size : Nat)
    (units : 0 < cfg.readSize.toNat) (valid : block < cfg.blockCount) (eased : Eased cfg size rcache)
    (programs : ∀ held, pcache = some held → Eased cfg size held) (positive : 0 < size) :
    ShortTurn pcache rcache block off size (bdTurn cfg pcache rcache hint block off size) := by
  apply turn_rule
  · intro held _ covered _
    have room := hit_room held block off covered
    exact ⟨by omega, by omega⟩
  · intro diff missed shorter
    rcases shorter with rfl | ⟨held, known, covered, before, rfl⟩
    · exact rcache_turn_short cfg pcache rcache hint block off diff diff units valid eased (fun _ long => long) (Nat.le_refl _) positive missed
    · refine rcache_turn_short cfg pcache rcache hint block off size _ units valid eased (fun here long => ?_) (Nat.min_le_left _ _)
        (by omega) missed
      have onUnit := (programs held known).resolve_left (by omega)
      obtain ⟨same, -⟩ : block = held.block ∧ off < held.off + held.size := by simpa [Cache.covers] using covered
      have there := onUnit (same ▸ valid)
      have notAfter : ¬ off ≥ held.off := fun after => missed ⟨held, known, covered, after⟩
      rw [ge_iff_le, UInt32.le_iff_toNat_le] at notAfter
      have apart := unit_apart here there (by omega)
      have distance : (held.off - off).toNat = held.off.toNat - off.toNat :=
        UInt32.toNat_sub_of_le _ _ (by rw [UInt32.le_iff_toNat_le]; omega)
      rw [distance]
      omega

-- A load for an offset inside the block leaves that offset in the cache.
theorem load_hits (cfg : Config) (few : Nat) (pcache : Option Cache) (rcache : Cache) (hint block off : UInt32) (servable : Servable cfg few)
    (positive : 1 ≤ hint.toNat) (bounded : hint.toNat ≤ max cfg.blockSize.toNat few) (inside : off.toNat < cfg.blockSize.toNat)
    (buffer : Nat → UInt8) : Hit pcache { rcacheLoad cfg rcache hint block off with buffer := buffer } block off := by
  obtain ⟨units, caches, pointers, blocks, room⟩ := servable
  have start := aligndown_toNat off cfg.readSize
  have sum : (off + hint + cfg.readSize - 1).toNat = off.toNat + hint.toNat + cfg.readSize.toNat - 1 := by
    rw [UInt32.toNat_sub, UInt32.toNat_add, UInt32.toNat_add]
    simp only [UInt32.reduceToNat]
    omega
  have up := aligndown_toNat (off + hint + cfg.readSize - 1) cfg.readSize
  rw [sum] at up
  have low := Nat.mod_lt off.toNat (by omega : 0 < cfg.readSize.toNat)
  have high := Nat.mod_lt (off.toNat + hint.toNat + cfg.readSize.toNat - 1) (by omega : 0 < cfg.readSize.toNat)
  have offLow := Nat.mod_le off.toNat cfg.readSize.toNat
  have loadedOff : (rcacheLoad cfg rcache hint block off).off.toNat = off.toNat - off.toNat % cfg.readSize.toNat := start
  have loadedSize : off.toNat % cfg.readSize.toNat < (rcacheLoad cfg rcache hint block off).size.toNat ∧
      off.toNat - off.toNat % cfg.readSize.toNat + (rcacheLoad cfg rcache hint block off).size.toNat ≤ cfg.blockSize.toNat := by
    rw [rcacheLoad]
    simp only [lfsAlignup, lfs_min_toNat, UInt32.toNat_sub, start, up]
    omega
  right
  constructor
  · have less : off < (rcacheLoad cfg rcache hint block off).off + (rcacheLoad cfg rcache hint block off).size := by
      rw [UInt32.lt_iff_toNat_lt, UInt32.toNat_add, loadedOff]
      omega
    simpa [Cache.covers] using ⟨rfl, less⟩
  · rw [ge_iff_le, UInt32.le_iff_toNat_le]
    simp only [loadedOff]
    omega

theorem load_on_unit (cfg : Config) (rcache : Cache) (hint block off : UInt32) (buffer : Nat → UInt8) :
    OnUnit cfg { rcacheLoad cfg rcache hint block off with buffer := buffer } := by
  intro _
  have start : (rcacheLoad cfg rcache hint block off).off.toNat = off.toNat - off.toNat % cfg.readSize.toNat := aligndown_toNat off cfg.readSize
  dsimp only
  rw [start]
  exact Nat.sub_mod_eq_zero_of_mod_eq (Nat.mod_mod _ _).symm

theorem zeroed_on_unit (cfg : Config) (rcache : Cache) : OnUnit cfg (lfsCacheZero cfg rcache) := by
  intro held
  have top : lfsBlockNull.toNat = 2 ^ 32 - 1 := rfl
  have small := cfg.blockCount.toNat_lt
  have null : (lfsCacheZero cfg rcache).block = lfsBlockNull := rfl
  rw [null, UInt32.lt_iff_toNat_lt] at held
  omega

section
variable {cfg : Config} {few : Nat} {device : Device}

theorem eased_shorter {size : Nat} {cache : Cache} (eased : Eased cfg few cache) (within : size ≤ few) : Eased cfg size cache :=
  eased.imp (fun short => Nat.lt_of_le_of_lt within short) id

theorem read_loop_returns (servable : Servable cfg few) (returns : device.Returns) (pcache : Option Cache) (hint block : UInt32)
    (programs : ∀ held, pcache = some held → Eased cfg few held) (valid : block < cfg.blockCount)
    (hinted : 1 ≤ hint.toNat) (bounded : hint.toNat ≤ max cfg.blockSize.toNat few) (fuel : Nat) :
    ∀ (off : UInt32) (data : List UInt8) (rcache : Cache), data.length ≤ few → off.toNat + data.length ≤ cfg.blockSize.toNat →
      Eased cfg few rcache → Enough pcache rcache block off data.length fuel →
      ∃ answer last, lfsBdReadLoop cfg device pcache hint block fuel off data rcache = some (answer, last) ∧ Eased cfg few last := by
  have room := servable.room
  induction fuel with
  | zero =>
      intro off data rcache short inside eased enough
      cases data with
      | nil => exact ⟨_, _, rfl, eased⟩
      | cons byte rest =>
          rw [Enough, List.length_cons] at enough
          omega
  | succ fuel ih =>
      intro off data rcache short inside eased enough
      cases data with
      | nil => exact ⟨_, _, rfl, eased⟩
      | cons byte rest =>
          have positive : 0 < (byte :: rest).length := by simp
          have turn := turn_short cfg pcache rcache hint block off (byte :: rest).length servable.units valid (eased_shorter eased short)
            (fun held known => eased_shorter (programs held known) short) positive
          -- What is left after some bytes of it.
          have onward (diff : Nat) (some : 0 < diff) (within : diff ≤ (byte :: rest).length) (plenty : 2 * (byte :: rest).length ≤ fuel + 2) :
              ∃ answer last, lfsBdReadLoop cfg device pcache hint block fuel (off + UInt32.ofNat diff) ((byte :: rest).drop diff) rcache =
                Option.some (answer, last) ∧ Eased cfg few last := by
            apply ih _ _ _ _ _ eased
            · left
              rw [List.length_drop]
              omega
            · rw [List.length_drop]
              omega
            · rw [offset_toNat off diff (by omega), List.length_drop]
              omega
          have plenty : 2 * (byte :: rest).length ≤ fuel + 2 := by
            rcases enough with most | ⟨-, most⟩
            · omega
            · omega
          rw [lfsBdReadLoop]
          dsimp only
          cases kind : bdTurn cfg pcache rcache hint block off (byte :: rest).length with
          | copy buffer start diff =>
              rw [kind] at turn
              obtain ⟨answer, last, ran, still⟩ := onward diff turn.1 turn.2 plenty
              exact ⟨_, last, by dsimp only; rw [ran]; rfl, still⟩
          | bypass diff =>
              rw [kind] at turn
              obtain ⟨result, answered⟩ := Option.isSome_iff_exists.mp (returns block off diff)
              dsimp only
              rw [answered, Option.bind_some]
              by_cases failed : result.err ≠ 0
              · rw [if_pos failed]
                exact ⟨_, _, rfl, eased⟩
              · rw [if_neg failed]
                obtain ⟨answer, last, ran, still⟩ := onward diff turn.1 turn.2 plenty
                exact ⟨_, last, by rw [ran]; rfl, still⟩
          | load =>
              rw [kind] at turn
              have most : 2 * (byte :: rest).length ≤ fuel + 1 := enough.resolve_right fun cached => turn cached.1
              dsimp only
              rw [if_neg (UInt32.not_le.mpr valid)]
              obtain ⟨result, answered⟩ := Option.isSome_iff_exists.mp
                (returns block (rcacheLoad cfg rcache hint block off).off (rcacheLoad cfg rcache hint block off).size.toNat)
              rw [answered, Option.bind_some]
              by_cases failed : result.err ≠ 0
              · rw [if_pos failed]
                exact ⟨_, _, rfl, Or.inr (load_on_unit cfg rcache hint block off _)⟩
              · rw [if_neg failed]
                refine ih off _ _ short inside (Or.inr (load_on_unit cfg rcache hint block off _)) (Or.inr ⟨?_, most⟩)
                exact load_hits cfg few pcache rcache hint block off servable hinted bounded (by omega) _

theorem bd_read_returns (servable : Servable cfg few) (returns : device.Returns) (pcache : Option Cache) (rcache : Cache)
    (programs : ∀ held, pcache = some held → Eased cfg few held) (eased : Eased cfg few rcache)
    (hint block off : UInt32) (data : List UInt8) (short : ShortRead cfg few hint off data) :
    ∃ answer last, lfsBdRead cfg device pcache rcache hint block off data = some (answer, last) ∧ Eased cfg few last := by
  rw [lfsBdRead]
  by_cases refused : block ≥ cfg.blockCount ∨ off + UInt32.ofNat data.length > cfg.blockSize
  · rw [if_pos refused]
    exact ⟨_, _, rfl, eased⟩
  · rw [if_neg refused]
    have valid : block < cfg.blockCount := UInt32.not_le.mp fun beyond => refused (Or.inl beyond)
    cases data with
    | nil => exact ⟨_, _, rfl, eased⟩
    | cons byte rest =>
        have inside : off.toNat + (byte :: rest).length ≤ cfg.blockSize.toNat := by
          have fits := UInt32.not_lt.mp fun beyond => refused (Or.inr beyond)
          rwa [UInt32.le_iff_toNat_le, offset_toNat off _ short.noWrap] at fits
        apply read_loop_returns servable returns pcache hint block programs valid (short.hinted (by simp) inside) short.hint _ _ _ _ short.short inside eased
        left
        omega

theorem server_answers {δ : Type} (servable : Servable cfg few) (returns : device.Returns) (cb : Callback δ) (asked : Request)
    (state : Cache × δ) (short : asked.Short cfg few) (eased : Eased cfg few state.1) :
    ∃ answer after, cachedServer cfg device cb asked state = some (answer, after) ∧ Eased cfg few after.1 := by
  cases asked with
  | read hint block off data =>
      obtain ⟨answer, last, ran, still⟩ :=
        bd_read_returns servable returns none state.1 (fun held known => by cases known) eased hint block off data short
      exact ⟨answer, (last, state.2), by rw [cachedServer, ran]; rfl, still⟩
  | readThrough pcache hint block data words =>
      obtain ⟨answer, last, ran, still⟩ := bd_read_returns servable returns (some pcache) state.1
        (fun held known => Option.some.inj known ▸ short.2) eased hint block 0 data short.1
      exact ⟨answer, (last, state.2), by rw [cachedServer, ran]; rfl, still⟩
  | zeroRcache => exact ⟨(), _, rfl, Or.inr (zeroed_on_unit cfg state.1)⟩
  | report block => exact ⟨_, _, rfl, eased⟩
  | stir crc => exact ⟨_, _, rfl, eased⟩

end

-- A call that asks for short reads only, whatever it is answered, and ends.
structure Scans {α : Type} (cfg : Config) (few : Nat) (call : BaseM α) (post : α → Prop) : Prop where
  always : ∀ base, (call base).Always (Request.Short cfg few) post

section
variable {α β : Type} {cfg : Config} {few : Nat}

theorem scans_pure {post : α → Prop} (result : α) (holds : post result) : Scans cfg few (pure result) post := ⟨fun _ => holds⟩

theorem scans_mono {strong weak : α → Prop} (call : BaseM α) (scans : Scans cfg few call strong) (implies : ∀ result, strong result → weak result) :
    Scans cfg few call weak :=
  ⟨fun base => Lib.Prog.always_mono (call base) (scans.always base) implies⟩

theorem scans_bind {middle : α → Prop} {post : β → Prop} (call : BaseM α) (rest : α → BaseM β) (first : Scans cfg few call middle)
    (second : ∀ result, middle result → Scans cfg few (rest result) post) : Scans cfg few (call >>= rest) post :=
  ⟨fun base => Lib.Prog.always_bind (call base) (fun result => rest result base) (first.always base)
    fun result met => (second result met).always base⟩

theorem scans_ite {post : α → Prop} {condition : Prop} [Decidable condition] {yes no : BaseM α} (positive : condition → Scans cfg few yes post)
    (negative : ¬ condition → Scans cfg few no post) : Scans cfg few (if condition then yes else no) post := by
  split
  · exact positive ‹_›
  · exact negative ‹_›

theorem scans_base : Scans cfg few (read : BaseM LfsBase) fun _ => True := ⟨fun _ => trivial⟩

theorem scans_stir (crc : UInt32) : Scans cfg few (stir crc) fun _ => True := ⟨fun _ => ⟨trivial, fun _ => trivial⟩⟩

theorem scans_report (block : UInt32) : Scans cfg few (report block) fun _ => True := ⟨fun _ => ⟨trivial, fun _ => trivial⟩⟩

theorem scans_read (hint block off : UInt32) (data : List UInt8) (short : ShortRead cfg few hint off data) :
    Scans cfg few (bdRead hint block off data) fun _ => True :=
  ⟨fun _ => ⟨short, fun _ => trivial⟩⟩

-- The scan goes on after a call that returned 0, and hands on any other status.
theorem scans_checked (call rest : BaseM Int32) (first : Scans cfg few call fun _ => True) (second : Scans cfg few rest fun _ => True) :
    Scans cfg few (do
      let err ← call
      if err ≠ 0 then return err
      rest) fun _ => True :=
  scans_bind call _ first fun err _ => scans_ite (fun _ => scans_pure err trivial) fun _ => second

-- What is left of the block grows smaller by a tag a turn.
def FetchTurn.Fits (cfg : Config) (off : UInt32) : FetchTurn → Prop
  | .next state =>
      off.toNat + 4 ≤ state.off.toNat ∧ state.off.toNat + 4 ≤ cfg.blockSize.toNat ∧ state.dir.off.toNat ≤ cfg.blockSize.toNat
  | .stop _ dir => dir.off.toNat ≤ cfg.blockSize.toNat
  | .fail _ dir => dir.off.toNat ≤ cfg.blockSize.toNat

theorem failed_fits (state : FetchState) (err : Int32) (off : UInt32) (dir : state.dir.off.toNat ≤ cfg.blockSize.toNat) :
    (state.failed err).Fits cfg off := by
  rw [FetchState.failed]
  split
  · exact dir
  · exact dir

theorem block_read (servable : Servable cfg few) (off : UInt32) (data : List UInt8) (short : data.length ≤ 8)
    (near : off.toNat ≤ cfg.blockSize.toNat + 3000) : ShortRead cfg few cfg.blockSize off data := by
  obtain ⟨units, caches, pointers, blocks, room⟩ := servable
  refine ⟨by omega, fun some fits => ?_, Nat.le_max_left _ _, by omega⟩
  have positive := List.length_pos_iff.mpr some
  omega

theorem fetch_crc_scans (servable : Servable cfg few) (state : FetchState) (before off tag crc : UInt32)
    (dir : state.dir.off.toNat ≤ cfg.blockSize.toNat) (moved : before.toNat + 4 ≤ off.toNat)
    (fits : off.toNat + (lfsTagDsize tag).toNat ≤ cfg.blockSize.toNat) :
    Scans cfg few (fetchCrc cfg state off tag crc) (FetchTurn.Fits cfg before) := by
  have room := servable.room
  have units := servable.units
  have dsize := tag_dsize_bounds tag
  have next : (off + 4).toNat = off.toNat + 4 := offset_toNat off 4 (by omega)
  have moving : (off + lfsTagDsize tag).toNat = off.toNat + (lfsTagDsize tag).toNat := by
    rw [UInt32.toNat_add]
    omega
  rw [fetchCrc]
  apply scans_bind _ _ (scans_read _ _ _ _ (block_read servable _ _ (by decide) (by omega)))
  intro answer _
  apply scans_ite
  · exact fun _ => scans_pure _ (failed_fits state _ before dir)
  · intro _
    apply scans_ite
    · exact fun _ => scans_pure _ dir
    · intro _
      apply scans_bind _ _ (scans_stir crc)
      intro _ _
      apply scans_pure
      exact ⟨moved, by dsimp only; omega, by dsimp only; omega⟩

theorem fetch_entry_crc_scans (servable : Servable cfg few) (block off : UInt32) (inside : off.toNat ≤ cfg.blockSize.toNat) (count : Nat) :
    ∀ (j crc : UInt32), j.toNat + count ≤ 1027 → Scans cfg few (fetchEntryCrc cfg block off count j crc) fun _ => True := by
  have room := servable.room
  have units := servable.units
  induction count with
  | zero => exact fun _ crc _ => scans_pure (0, crc) trivial
  | succ count ih =>
      intro j crc left
      have next : (j + 1).toNat = j.toNat + 1 := offset_toNat j 1 (by omega)
      have sum : (off + j).toNat = off.toNat + j.toNat := by
        rw [UInt32.toNat_add]
        omega
      rw [fetchEntryCrc]
      apply scans_bind _ _ (scans_read _ _ _ _ (block_read servable _ _ (by decide) (by omega)))
      intro answer _
      apply scans_ite
      · exact fun _ => scans_pure _ trivial
      · exact fun _ => ih _ _ (by omega)

theorem fetch_match_scans (fmask ftag : UInt32) (cb : TagMatch) (state : FetchState) (before off tag : UInt32)
    (fits : (FetchTurn.next state).Fits cfg before) (inside : (off + 4).toNat ≤ cfg.blockSize.toNat)
    (matched : fmask &&& tag = fmask &&& ftag → ∀ disk, disk.off.toNat ≤ cfg.blockSize.toNat → Scans cfg few (cb tag disk) fun _ => True) :
    Scans cfg few (fetchMatch fmask ftag cb state off tag) (FetchTurn.Fits cfg before) := by
  rw [fetchMatch]
  apply scans_ite
  · exact fun _ => scans_pure _ fits
  · intro same
    apply scans_bind _ _ (matched (Decidable.not_not.mp same) _ inside)
    intro res _
    apply scans_ite
    · exact fun _ => scans_pure _ (failed_fits state res before fits.2.2)
    · intro _
      apply scans_pure
      rw [fetchMatched]
      split
      · exact fits
      · split
        · exact fits
        · split
          · exact fits
          · exact fits

theorem fetch_entry_scans (servable : Servable cfg few) (fmask ftag : UInt32) (cb : TagMatch) (state : FetchState) (before off tag crc : UInt32)
    (dir : state.dir.off.toNat ≤ cfg.blockSize.toNat) (moved : before.toNat + 4 ≤ off.toNat)
    (fits : off.toNat + (lfsTagDsize tag).toNat ≤ cfg.blockSize.toNat)
    (matched : fmask &&& tag = fmask &&& ftag → ∀ disk, disk.off.toNat ≤ cfg.blockSize.toNat → Scans cfg few (cb tag disk) fun _ => True) :
    Scans cfg few (fetchEntry cfg fmask ftag cb state off tag crc) (FetchTurn.Fits cfg before) := by
  have room := servable.room
  have units := servable.units
  have dsize := tag_dsize_bounds tag
  have next : (off + 4).toNat = off.toNat + 4 := offset_toNat off 4 (by omega)
  have near : (off + 4).toNat ≤ cfg.blockSize.toNat := by omega
  have count : (lfsTagDsize tag - 4).toNat = (lfsTagDsize tag).toNat - 4 :=
    UInt32.toNat_sub_of_le _ _ (UInt32.le_iff_toNat_le.mpr dsize.1)
  rw [fetchEntry]
  apply scans_bind _ _ (fetch_entry_crc_scans servable _ off (by omega) _ 4 crc (by rw [count]; simp only [UInt32.reduceToNat]; omega))
  intro answer _
  apply scans_ite
  · exact fun _ => scans_pure _ dir
  · intro _
    dsimp only
    generalize known : (if answer.1 = lfsErrCorrupt then { state.dir with erased := false } else state.dir) = entered
    have same : entered.off = state.dir.off := by
      rw [← known]
      split
      · rfl
      · rfl
    have whole (left : FetchState) (leftOff : left.off = off) (leftDir : left.dir = entered) : (FetchTurn.next left).Fits cfg before := by
      rw [FetchTurn.Fits, leftOff, leftDir, same]
      exact ⟨moved, by omega, dir⟩
    apply scans_ite
    · intro _
      apply fetch_match_scans _ _ _ _ _ _ _ _ near matched
      rw [fetchName]
      split
      · exact whole _ rfl rfl
      · exact whole _ rfl rfl
    · intro _
      apply scans_ite
      · exact fun _ => fetch_match_scans _ _ _ _ _ _ _ (whole _ rfl rfl) near matched
      · intro _
        apply scans_ite
        · intro _
          have tail : Scans cfg few (fetchTail cfg
              { state with
                off := off
                ptag := tag
                crc := answer.2
                dir := entered } off tag) fun found => (FetchTurn.next found.2).Fits cfg before := by
            apply scans_bind _ _ (scans_read _ _ _ _ (block_read servable _ _ (by simp [lfsTole32]) (by omega)))
            intro bytes _
            apply scans_ite
            · exact fun _ => scans_pure _ (whole _ rfl rfl)
            · exact fun _ => scans_pure _ (whole _ rfl rfl)
          apply scans_bind _ _ tail
          intro found met
          apply scans_ite
          · exact fun _ => fetch_match_scans _ _ _ _ _ _ _ met near matched
          · exact fun _ => scans_pure _ met.2.2
        · exact fun _ => fetch_match_scans _ _ _ _ _ _ _ (whole _ rfl rfl) near matched

-- The match functions the tags of a block are handed to.
def Matches (cfg : Config) (few : Nat) (fmask ftag : UInt32) (cb : TagMatch) : Prop :=
  ∀ tag disk, disk.off.toNat ≤ cfg.blockSize.toNat → lfsTagIsvalid tag = true → fmask &&& tag = fmask &&& ftag → Scans cfg few (cb tag disk) fun _ => True

theorem fetch_tag_scans (servable : Servable cfg few) (fmask ftag : UInt32) (cb : TagMatch) (matched : Matches cfg few fmask ftag cb)
    (state : FetchState) (inside : state.off.toNat ≤ cfg.blockSize.toNat) (dir : state.dir.off.toNat ≤ cfg.blockSize.toNat) :
    Scans cfg few (fetchTag cfg fmask ftag cb state) (FetchTurn.Fits cfg state.off) := by
  have room := servable.room
  have units := servable.units
  have last := tag_dsize_bounds state.ptag
  have off : (state.off + lfsTagDsize state.ptag).toNat = state.off.toNat + (lfsTagDsize state.ptag).toNat := by
    rw [UInt32.toNat_add]
    omega
  rw [fetchTag]
  apply scans_bind _ _ (scans_read _ _ _ _ (block_read servable _ _ (by decide) (by omega)))
  intro answer _
  apply scans_ite
  · exact fun _ => scans_pure _ (failed_fits state _ _ dir)
  · intro _
    apply scans_ite
    · exact fun _ => scans_pure _ dir
    · intro valid
      apply scans_ite
      · exact fun _ => scans_pure _ dir
      · intro fits
        have dsize := tag_dsize_bounds (lfsFrombe32 answer.2 ^^^ state.ptag)
        rw [gt_iff_lt, UInt32.not_lt, UInt32.le_iff_toNat_le, UInt32.toNat_add] at fits
        apply scans_ite
        · exact fun _ => fetch_crc_scans servable state _ _ _ _ dir (by omega) (by omega)
        · intro _
          exact fetch_entry_scans servable fmask ftag cb state _ _ _ _ dir (by omega) (by omega)
            fun same disk near => matched _ disk near (Decidable.not_not.mp valid) same

theorem fetch_scan_scans (servable : Servable cfg few) (fmask ftag : UInt32) (cb : TagMatch) (matched : Matches cfg few fmask ftag cb) (fuel : Nat) :
    ∀ (state : FetchState), state.off.toNat ≤ cfg.blockSize.toNat → state.dir.off.toNat ≤ cfg.blockSize.toNat →
      cfg.blockSize.toNat < 4 * fuel + state.off.toNat + 4 → 0 < fuel →
      Scans cfg few (fetchScan cfg fmask ftag cb fuel state) fun ended => ended.2.2.off.toNat ≤ cfg.blockSize.toNat := by
  induction fuel with
  | zero => exact fun _ _ _ _ none => absurd none (Nat.lt_irrefl 0)
  | succ fuel ih =>
      intro state inside dir enough _
      rw [fetchScan]
      apply scans_bind _ _ (fetch_tag_scans servable fmask ftag cb matched state inside dir)
      intro turn met
      cases turn with
      | next later =>
          obtain ⟨moved, short, kept⟩ := met
          exact ih later (by omega) kept (by omega) (by omega)
      | stop besttag last => exact scans_pure _ met
      | fail err last => exact scans_pure _ met

theorem fetch_blocks_scans (servable : Servable cfg few) (fmask ftag : UInt32) (cb : TagMatch) (matched : Matches cfg few fmask ftag cb)
    (otherRev : UInt32) (attempts : Nat) :
    ∀ (besttag : UInt32) (dir : Mdir), dir.off.toNat ≤ cfg.blockSize.toNat →
      Scans cfg few (fetchBlocks cfg fmask ftag cb otherRev attempts besttag dir) fun fetched => fetched.dir.off.toNat ≤ cfg.blockSize.toNat := by
  obtain ⟨units, caches, pointers, blocks, room⟩ := servable
  induction attempts with
  | zero => exact fun _ dir inside => scans_pure _ inside
  | succ attempts ih =>
      intro besttag dir inside
      rw [fetchBlocks]
      apply scans_bind _ _ (fetch_scan_scans ⟨units, caches, pointers, blocks, room⟩ fmask ftag cb matched cfg.blockSize.toNat _ (Nat.zero_le _) inside
        (by omega) (by omega))
      intro scanned met
      apply scans_ite
      · exact fun _ => scans_pure _ met
      · intro _
        apply scans_ite
        · intro _
          apply scans_bind _ _ scans_base
          exact fun _ _ => scans_pure _ met
        · exact fun _ => ih _ _ met

theorem fetchmatch_scans (servable : Servable cfg few) (dir : Mdir) (pair : Pair) (fmask ftag : UInt32) (cb : TagMatch)
    (matched : Matches cfg few fmask ftag cb) :
    Scans cfg few (lfsDirFetchmatch cfg dir pair fmask ftag cb) fun fetched =>
      fetched.dir.off.toNat ≤ cfg.blockSize.toNat ∨ (fetched.tag ≠ 0 ∧ fetched.dir = dir) := by
  have pointers := servable.pointers
  have blocks := servable.blocks
  have words (block : UInt32) : Scans cfg few (bdRead 4 block 0 (lfsTole32 0)) fun _ => True :=
    scans_read _ _ _ _ ⟨Nat.le_trans (show 4 ≤ 8 by decide) servable.pointers, fun _ _ => by decide, by simp only [UInt32.reduceToNat]; omega, by decide⟩
  rw [lfsDirFetchmatch]
  apply scans_ite
  · exact fun _ => scans_pure _ (Or.inr ⟨show lfsErrCorrupt ≠ 0 by decide, rfl⟩)
  · intro _
    apply scans_bind _ _ (words pair.first)
    intro first _
    apply scans_ite
    · exact fun failed => scans_pure _ (Or.inr ⟨failed.1, rfl⟩)
    · intro _
      apply scans_bind _ _ (words pair.second)
      intro second _
      apply scans_ite
      · exact fun failed => scans_pure _ (Or.inr ⟨failed.1, rfl⟩)
      · intro _
        apply scans_ite
        · intro _
          exact scans_mono _ (fetch_blocks_scans servable fmask ftag cb matched _ 2 _ _ (Nat.zero_le _)) fun _ => Or.inl
        · intro _
          exact scans_mono _ (fetch_blocks_scans servable fmask ftag cb matched _ 2 _ _ (Nat.zero_le _)) fun _ => Or.inl

-- No tag is all ones, so the null match function is not called.
theorem none_match (cfg : Config) (few : Nat) : Matches cfg few 0xffffffff 0xffffffff fun _ _ => endless := by
  intro tag disk _ valid same
  have whole : (0xffffffff : UInt32) &&& tag = tag := by
    apply UInt32.toNat_inj.mp
    rw [UInt32.toNat_and, Nat.and_comm]
    exact Nat.and_two_pow_sub_one_of_lt_two_pow tag.toNat_lt
  have ones : tag = 0xffffffff := whole.symm.trans same
  rw [ones] at valid
  exact absurd valid (by decide)

theorem fetch_scans (servable : Servable cfg few) (dir : Mdir) (pair : Pair) :
    Scans cfg few (lfsDirFetch cfg dir pair) fun fetched =>
      fetched.2.off.toNat ≤ cfg.blockSize.toNat ∨ (fetched.1 ≠ 0 ∧ fetched.2 = dir) :=
  scans_bind _ _ (fetchmatch_scans servable dir pair _ _ _ (none_match cfg few)) fun _ met => scans_pure _ met

theorem slice_read (servable : Servable cfg few) (off : UInt32) (diff : Nat) (short : diff ≤ few) (near : off.toNat ≤ cfg.blockSize.toNat) :
    ShortRead cfg few (UInt32.ofNat diff) off (zeros diff) := by
  obtain ⟨units, caches, pointers, blocks, room⟩ := servable
  have hint : (UInt32.ofNat diff).toNat = diff := by
    rw [UInt32.toNat_ofNat']
    omega
  have length : (zeros diff).length = diff := List.length_replicate
  refine ⟨by omega, ?_, by omega, by omega⟩
  intro some _
  have positive := List.length_pos_iff.mpr some
  omega

theorem getslice_loop_scans (servable : Servable cfg few) (dir : Mdir) (gmask gtag : UInt32) (gsize : Nat) (short : gsize ≤ few) (fuel : Nat) :
    ∀ (off ntag gdiff : UInt32), off.toNat ≤ cfg.blockSize.toNat →
      Scans cfg few (getsliceLoop cfg dir gmask gtag 0 gsize fuel off ntag gdiff) fun _ => True := by
  have units := servable.units
  have caches := servable.caches
  have blocks := servable.blocks
  have room := servable.room
  induction fuel with
  | zero => exact fun _ _ _ _ => scans_pure _ trivial
  | succ fuel ih =>
      intro off ntag gdiff inside
      have dsize := tag_dsize_bounds ntag
      rw [getsliceLoop]
      apply scans_ite
      · exact fun _ => scans_pure _ trivial
      · intro more
        rw [UInt32.lt_iff_toNat_lt, UInt32.toNat_add] at more
        simp only [UInt32.reduceToNat] at more
        have back : (off - lfsTagDsize ntag).toNat = off.toNat - (lfsTagDsize ntag).toNat :=
          UInt32.toNat_sub_of_le _ _ (by rw [UInt32.le_iff_toNat_le]; omega)
        have next : (off - lfsTagDsize ntag + 4 + 0).toNat = off.toNat - (lfsTagDsize ntag).toNat + 4 := by
          rw [UInt32.add_zero, UInt32.toNat_add, back]
          simp only [UInt32.reduceToNat]
          omega
        have word : Scans cfg few (bdRead 4 dir.pair.first (off - lfsTagDsize ntag) (lfsTole32 ntag)) fun _ => True := by
          apply scans_read
          refine ⟨Nat.le_trans (show 4 ≤ 8 by decide) servable.pointers, fun _ _ => by decide, ?_, ?_⟩
          · simp only [UInt32.reduceToNat]
            omega
          · simp only [lfsTole32, List.length_cons, List.length_nil]
            omega
        apply scans_bind _ _ word
        intro answer _
        dsimp only
        apply scans_ite
        · exact fun _ => scans_pure _ trivial
        · intro _
          apply scans_ite
          · exact fun _ => scans_pure _ trivial
          · intro _
            generalize (if lfsTagId gmask ≠ 0 ∧ lfsTagType1 ntag = lfsTypeSplice ∧ lfsTagId ntag ≤ lfsTagId (gtag - gdiff) then
              gdiff + lfsMktag 0 (lfsTagSplice ntag) 0 else gdiff) = moved
            apply scans_ite
            · intro _
              apply scans_ite
              · exact fun _ => scans_pure _ trivial
              · intro _
                generalize found : min (lfsTagSize ntag).toNat gsize = diff
                have small : diff ≤ few := by omega
                apply scans_bind _ _ (scans_read _ _ _ _ (slice_read servable _ diff small (by omega)))
                intro data _
                apply scans_ite
                · exact fun _ => scans_pure _ trivial
                · exact fun _ => scans_pure _ trivial
            · exact fun _ => ih _ _ _ (by omega)

theorem mktag_size (type id size : UInt32) : lfsTagSize (lfsMktag type id size) = lfsTagSize size := by
  apply UInt32.toNat_inj.mp
  have mask : (0x3ff : UInt32).toNat = 2 ^ 10 - 1 := rfl
  have twenty : (20 : UInt32).toNat % 32 = 20 := rfl
  have ten : (10 : UInt32).toNat % 32 = 10 := rfl
  simp only [lfsTagSize, lfsMktag, UInt32.toNat_and, UInt32.toNat_or, UInt32.toNat_shiftLeft, mask, twenty, ten,
    Nat.and_two_pow_sub_one_eq_mod, Nat.or_mod_two_pow, Nat.shiftLeft_eq]
  have high : type.toNat * 2 ^ 20 % 2 ^ 32 % 2 ^ 10 = 0 := by omega
  have middle : id.toNat * 2 ^ 10 % 2 ^ 32 % 2 ^ 10 = 0 := by
    rw [Nat.mod_mod_of_dvd _ (Nat.pow_dvd_pow 2 (by decide)), Nat.mul_mod_left]
  rw [high, middle, Nat.zero_or, Nat.zero_or]

theorem dir_get_scans (servable : Servable cfg few) (dir : Mdir) (gmask gtag : UInt32) (short : (lfsTagSize gtag).toNat ≤ few)
    (inside : dir.off.toNat ≤ cfg.blockSize.toNat) : Scans cfg few (lfsDirGet cfg dir gmask gtag) fun _ => True := by
  rw [lfsDirGet, lfsDirGetslice]
  apply scans_bind _ _ scans_base
  intro lfs _
  exact getslice_loop_scans servable dir gmask gtag _ short _ _ _ _ inside

theorem read_heads_scans (servable : Servable cfg few) (pcache : Option Cache) (programs : ∀ held, pcache = some held → Eased cfg few held)
    (head : UInt32) (two : Bool) : Scans cfg few (readHeads pcache head two) fun _ => True := by
  have pointers := servable.pointers
  have blocks := servable.blocks
  have four : ShortRead cfg few 4 0 (zeros 4) :=
    ⟨show 4 ≤ few by omega, fun _ _ => by decide, show 4 ≤ max cfg.blockSize.toNat few by omega, by decide⟩
  have eight : ShortRead cfg few 8 0 (zeros 8) := ⟨pointers, fun _ _ => by decide, show 8 ≤ max cfg.blockSize.toNat few by omega, by decide⟩
  cases pcache with
  | none =>
      cases two with
      | false => exact scans_read _ _ _ _ four
      | true => exact scans_read _ _ _ _ eight
  | some pcache =>
      have eased := programs pcache rfl
      cases two with
      | false => exact ⟨fun _ => ⟨⟨four, eased⟩, fun _ => trivial⟩⟩
      | true => exact ⟨fun _ => ⟨⟨eight, eased⟩, fun _ => trivial⟩⟩

theorem ctz_loop_scans (servable : Servable cfg few) (pcache : Option Cache) (programs : ∀ held, pcache = some held → Eased cfg few held)
    (fuel : Nat) :
    ∀ (head index : UInt32), index.toNat < fuel → Scans cfg few (ctzTraverseLoop pcache fuel head index) fun _ => True := by
  induction fuel with
  | zero => exact fun _ index none => absurd none (Nat.not_lt_zero _)
  | succ fuel ih =>
      intro head index enough
      rw [ctzTraverseLoop]
      apply scans_checked _ _ (scans_report head)
      apply scans_ite
      · exact fun _ => scans_pure _ trivial
      · intro more
        have positive : index.toNat ≠ 0 := fun zero => more (UInt32.toNat_inj.mp zero)
        apply scans_ite
        · intro even
          have evenNat : index.toNat % 2 = 0 := by
            have parts := congrArg UInt32.toNat even
            rwa [UInt32.toNat_and, UInt32.toNat_one, Nat.and_one_is_mod, UInt32.toNat_zero] at parts
          have back : (index - 2).toNat = index.toNat - 2 :=
            UInt32.toNat_sub_of_le _ _ (by rw [UInt32.le_iff_toNat_le]; simp only [UInt32.reduceToNat]; omega)
          apply scans_bind _ _ (read_heads_scans servable pcache programs head true)
          intro heads _
          apply scans_ite
          · exact fun _ => scans_pure _ trivial
          · intro _
            exact scans_checked _ _ (scans_report _) (ih _ _ (by omega))
        · intro _
          have back : (index - 1).toNat = index.toNat - 1 :=
            UInt32.toNat_sub_of_le _ _ (by rw [UInt32.le_iff_toNat_le]; simp only [UInt32.reduceToNat]; omega)
          apply scans_bind _ _ (read_heads_scans servable pcache programs head false)
          intro heads _
          apply scans_ite
          · exact fun _ => scans_pure _ trivial
          · exact fun _ => ih _ _ (by omega)

theorem ctz_scans (servable : Servable cfg few) (pcache : Option Cache) (programs : ∀ held, pcache = some held → Eased cfg few held)
    (head size : UInt32) : Scans cfg few (lfsCtzTraverse cfg pcache head size) fun _ => True :=
  scans_ite (fun _ => scans_pure _ trivial) fun _ => ctz_loop_scans servable pcache programs _ head _ (Nat.lt_succ_self _)

theorem pair_scans (pair : Pair) : Scans cfg few (reportPair pair) fun _ => True := scans_checked _ _ (scans_report _) (scans_report _)

theorem id_scans (servable : Servable cfg few) (includeorphans : Bool) (dir : Mdir) (id : UInt16)
    (inside : dir.off.toNat ≤ cfg.blockSize.toNat) : Scans cfg few (traverseId cfg includeorphans dir id) fun _ => True := by
  have eight : (lfsTagSize (lfsMktag lfsTypeStruct id.toUInt32 8)).toNat ≤ 8 := by
    rw [mktag_size]
    decide
  rw [traverseId]
  apply scans_bind _ _ (dir_get_scans servable dir _ _ (Nat.le_trans eight servable.pointers) inside)
  intro got _
  apply scans_ite
  · exact fun _ => scans_pure _ trivial
  · intro _
    apply scans_ite
    · exact fun _ => ctz_scans servable none (fun held known => by cases known) _ _
    · exact fun _ => scans_ite (fun _ => pair_scans _) fun _ => scans_pure _ trivial

theorem ids_scans (servable : Servable cfg few) (includeorphans : Bool) (dir : Mdir) (inside : dir.off.toNat ≤ cfg.blockSize.toNat)
    (count : Nat) : ∀ (id : UInt16), Scans cfg few (traverseIds cfg includeorphans dir count id) fun _ => True := by
  induction count with
  | zero => exact fun _ => scans_pure _ trivial
  | succ count ih =>
      intro id
      exact scans_checked _ _ (id_scans servable includeorphans dir id inside) (ih _)

theorem traverse_pair_scans (servable : Servable cfg few) (includeorphans : Bool) (dir : Mdir) :
    Scans cfg few (traversePair cfg includeorphans dir) fun _ => True := by
  rw [traversePair]
  apply scans_bind _ _ (pair_scans dir.tail)
  intro reported _
  apply scans_ite
  · exact fun _ => scans_pure _ trivial
  · intro _
    apply scans_bind _ _ (fetch_scans servable dir dir.tail)
    intro fetched met
    apply scans_ite
    · exact fun _ => scans_pure _ trivial
    · intro passed
      have inside := met.resolve_right fun failed => passed failed.1
      apply scans_bind _ _ (ids_scans servable includeorphans fetched.2 inside _ 0)
      exact fun _ _ => scans_pure _ trivial

theorem file_scans (servable : Servable cfg few) (f : LfsFile) (eased : Eased cfg few f.cache) :
    Scans cfg few (traverseFile cfg f) fun _ => True := by
  have programs : ∀ held, some f.cache = some held → Eased cfg few held := fun held known => Option.some.inj known ▸ eased
  rw [traverseFile]
  apply scans_ite
  · exact fun _ => scans_pure _ trivial
  · intro _
    have writing : Scans cfg few (if f.flags &&& lfsFWriting ≠ 0 ∧ f.flags &&& lfsFInline = 0 then
        lfsCtzTraverse cfg (some f.cache) f.block f.pos else pure 0) fun _ => True :=
      scans_ite (fun _ => ctz_scans servable _ programs _ _) fun _ => scans_pure _ trivial
    apply scans_ite
    · exact fun _ => scans_checked _ _ (ctz_scans servable _ programs _ _) writing
    · exact fun _ => scans_checked _ _ (scans_pure _ trivial) writing

theorem files_scans (servable : Servable cfg few) (files : Nat → LfsFile) (mlist : List Nat)
    (eased : ∀ f ∈ mlist, Eased cfg few (files f).cache) : Scans cfg few (traverseFiles cfg files mlist) fun _ => True := by
  induction mlist with
  | nil => exact scans_pure _ trivial
  | cons f mlist ih =>
      refine scans_checked _ _ (file_scans servable (files f) (eased f List.mem_cons_self)) (ih fun other member => ?_)
      exact eased other (List.mem_cons_of_mem _ member)

theorem metadata_scans (servable : Servable cfg few) (includeorphans : Bool) (left : Nat) :
    ∀ (dir : Mdir), left ≤ (cfg.blockCount / 2).toNat →
      Scans cfg few (traverseMetadata cfg includeorphans (left + 1) dir (turnsTaken cfg left)) fun _ => True := by
  induction left with
  | zero =>
      intro dir within
      by_cases ended : lfsPairIsnull dir.tail = true
      · rw [metadata_ended cfg includeorphans dir 0 ended]
        exact scans_pure _ trivial
      · rw [metadata_full cfg includeorphans dir ended]
        exact scans_pure _ trivial
  | succ left ih =>
      intro dir within
      by_cases ended : lfsPairIsnull dir.tail = true
      · rw [metadata_ended cfg includeorphans dir (left + 1) ended]
        exact scans_pure _ trivial
      · rw [metadata_pair cfg includeorphans dir left within ended]
        apply scans_bind _ _ (traverse_pair_scans servable includeorphans dir)
        intro done _
        exact scans_ite (fun _ => scans_pure _ trivial) fun _ => ih _ (by omega)

-- The whole scan, over the open files as they stand when it starts.
theorem traverseraw_always (servable : Servable cfg few) (files : Nat → LfsFile) (includeorphans : Bool) (base : LfsBase)
    (eased : ∀ f ∈ base.mlist, Eased cfg few (files f).cache) :
    (lfsFsTraverseraw cfg files includeorphans base).Always (Request.Short cfg few) fun _ => True := by
  have scan := metadata_scans servable includeorphans _ (Mdir.ofTail ⟨0, 1⟩) (Nat.le_refl (cfg.blockCount / 2).toNat)
  rw [turns_start] at scan
  refine Lib.Prog.always_bind (traverseMetadata cfg includeorphans ((cfg.blockCount / 2).toNat + 1) (Mdir.ofTail ⟨0, 1⟩) 0 base)
    (fun err => (if err ≠ 0 then pure err else traverseOpenFiles cfg files : BaseM Int32) base) (scan.always base) fun err _ => ?_
  by_cases failed : err ≠ 0
  · rw [if_pos failed]
    exact trivial
  · rw [if_neg failed]
    exact (files_scans servable files base.mlist eased).always base

end

end SDCardFs.Littlefs

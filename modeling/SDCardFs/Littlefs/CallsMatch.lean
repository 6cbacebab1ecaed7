import SDCardFs.Littlefs.Refill
import SDCardFs.Littlefs.Returns
import SDCardFs.Littlefs.Scan

set_option autoImplicit false

namespace SDCardFs.Littlefs

-- A call on the whole of lfs that asks for short reads only, and ends.
structure LfsScans {α : Type} (cfg : Config) (few : Nat) (call : LfsM α) (post : α → Prop) : Prop where
  always : ∀ lfs, (call lfs).Always (Request.Short cfg few) fun ran => post ran.1

section
variable {α β : Type} {cfg : Config} {few : Nat}

theorem lfs_scans_pure {post : α → Prop} (result : α) (holds : post result) : LfsScans cfg few (pure result) post := ⟨fun _ => holds⟩

theorem lfs_scans_bind {middle : α → Prop} {post : β → Prop} (call : LfsM α) (rest : α → LfsM β) (first : LfsScans cfg few call middle)
    (second : ∀ result, middle result → LfsScans cfg few (rest result) post) : LfsScans cfg few (call >>= rest) post :=
  ⟨fun lfs => Lib.Prog.always_bind (call lfs) (fun ran => rest ran.1 ran.2) (first.always lfs)
    fun ran met => (second ran.1 met).always ran.2⟩

theorem lfs_scans_ite {post : α → Prop} {condition : Prop} [Decidable condition] {yes no : LfsM α}
    (positive : condition → LfsScans cfg few yes post) (negative : ¬ condition → LfsScans cfg few no post) :
    LfsScans cfg few (if condition then yes else no) post := by
  split
  · exact positive ‹_›
  · exact negative ‹_›

theorem lfs_scans_get : LfsScans cfg few (get : LfsM Lfs) fun _ => True := ⟨fun _ => trivial⟩

theorem lfs_scans_modify (change : Lfs → Lfs) : LfsScans cfg few (modify change : LfsM Unit) fun _ => True := ⟨fun _ => trivial⟩

theorem lfs_scans_lift {post : α → Prop} (call : BaseM α) (scans : Scans cfg few call post) : LfsScans cfg few (lift call) post :=
  ⟨fun lfs => Lib.Prog.always_map _ _ (Lib.Prog.always_handle seedHandler _ lfs.seed (scans.always lfs.toLfsBase))⟩

-- A step before the rest of a call, with nothing to hand on.
theorem lfs_scans_then {post : β → Prop} (call : LfsM α) (rest : LfsM β) (first : LfsScans cfg few call fun _ => True)
    (second : LfsScans cfg few rest post) : LfsScans cfg few (do let _ ← call; rest) post :=
  lfs_scans_bind call _ first fun _ _ => second

theorem mount_limits_scans (superblock : Superblock) : LfsScans cfg few (mountLimits superblock) fun _ => True := by
  have done : LfsScans cfg few (pure 0) fun _ : Int32 => True := lfs_scans_pure 0 trivial
  have limit (value : UInt32) (most : Lfs → UInt32) (change : Lfs → Lfs) (rest : LfsM Int32) (onward : LfsScans cfg few rest fun _ => True) :
      LfsScans cfg few (if value ≠ 0 then do
        if value > most (← get) then pure lfsErrInval else do
          modify change
          rest
      else rest) fun _ => True :=
    lfs_scans_ite (fun _ => lfs_scans_bind _ _ lfs_scans_get fun lfs _ => lfs_scans_ite (fun _ => lfs_scans_pure _ trivial) fun _ =>
      lfs_scans_then _ _ (lfs_scans_modify _) onward) fun _ => onward
  exact limit superblock.nameMax _ _ _ (limit superblock.fileMax _ _ _ (limit superblock.attrMax _ _ _ done))

-- The longest entry a mount reads is the superblock's, of 24 bytes.
theorem mount_superblock_scans (servable : Servable cfg 24) (dir : Mdir) (inside : dir.off.toNat ≤ cfg.blockSize.toNat) :
    LfsScans cfg 24 (mountSuperblock cfg dir) fun _ => True := by
  have long : (lfsTagSize (lfsMktag lfsTypeInlinestruct 0 24)).toNat ≤ 24 := by
    rw [mktag_size]
    decide
  refine lfs_scans_then _ _ (lfs_scans_modify _) ?_
  refine lfs_scans_bind _ _ (lfs_scans_lift _ (dir_get_scans servable dir _ _ long inside)) fun got _ => ?_
  refine lfs_scans_ite (fun _ => lfs_scans_pure _ trivial) fun _ => lfs_scans_ite (fun _ => lfs_scans_pure _ trivial) fun _ => ?_
  exact mount_limits_scans _

theorem bd_cmp_scans (servable : Servable cfg few) (hint block off : UInt32) (short : hint.toNat ≤ few)
    (near : off.toNat ≤ cfg.blockSize.toNat) (buffer : List UInt8) :
    ∀ (i : UInt32), i.toNat + buffer.length ≤ hint.toNat → Scans cfg few (lfsBdCmpLoop hint block off buffer i) fun _ => True := by
  have room := servable.room
  have units := servable.units
  have pointers := servable.pointers
  induction buffer with
  | nil => exact fun _ _ => scans_pure _ trivial
  | cons byte rest ih =>
      intro i left
      rw [List.length_cons] at left
      have remains : (hint - i).toNat = hint.toNat - i.toNat :=
        UInt32.toNat_sub_of_le _ _ (by rw [UInt32.le_iff_toNat_le]; omega)
      have next : (i + 1).toNat = i.toNat + 1 := offset_toNat i 1 (by omega)
      have sum : (off + i).toNat = off.toNat + i.toNat := by
        rw [UInt32.toNat_add]
        omega
      have one : ShortRead cfg few (hint - i) (off + i) (zeros 1) :=
        ⟨show 1 ≤ few by omega, fun _ _ => by omega, by omega, show (off + i).toNat + 1 < 2 ^ 32 by omega⟩
      rw [lfsBdCmpLoop]
      refine scans_bind _ _ (scans_read _ _ _ _ one) fun answer _ => scans_ite (fun _ => scans_pure _ trivial) fun _ => ?_
      exact scans_ite (fun _ => scans_pure _ trivial) fun _ => ih _ (by omega)

theorem magic_matches (servable : Servable cfg few) (fmask ftag : UInt32) :
    Matches cfg few fmask ftag (lfsDirFindMatch superblockMagic) := by
  intro tag disk near _ _
  have pointers := servable.pointers
  have length : (superblockMagic.name.take (lfsMin superblockMagic.size (lfsTagSize tag)).toNat).length ≤
      (lfsMin superblockMagic.size (lfsTagSize tag)).toNat := by
    rw [List.length_take]
    exact Nat.min_le_left _ _
  have eight : (lfsMin superblockMagic.size (lfsTagSize tag)).toNat ≤ 8 := by
    rw [lfs_min_toNat]
    exact Nat.min_le_left _ _
  have compared := bd_cmp_scans servable (lfsMin superblockMagic.size (lfsTagSize tag)) disk.block disk.off (by omega) near
    (superblockMagic.name.take (lfsMin superblockMagic.size (lfsTagSize tag)).toNat) 0 (by rw [UInt32.toNat_zero]; omega)
  rw [lfsDirFindMatch]
  refine scans_bind _ _ compared fun res _ => scans_ite (fun _ => scans_pure _ trivial) fun _ => ?_
  exact scans_ite (fun _ => scans_pure _ trivial) fun _ => scans_pure _ trivial

theorem mount_pair_scans (servable : Servable cfg 24) (dir : Mdir) (inside : dir.off.toNat ≤ cfg.blockSize.toNat) :
    LfsScans cfg 24 (mountPair cfg dir) fun done => done.2.2.off.toNat ≤ cfg.blockSize.toNat := by
  have fetches := fetchmatch_scans servable dir dir.tail (lfsMktag 0x7ff 0x3ff 0) (lfsMktag lfsTypeSuperblock 0 8) _
    (magic_matches servable _ _)
  refine lfs_scans_bind _ _ (lfs_scans_lift _ fetches) fun fetched met => ?_
  have kept : fetched.dir.off.toNat ≤ cfg.blockSize.toNat := by
    rcases met with within | ⟨-, same⟩
    · exact within
    · rw [same]
      exact inside
  refine lfs_scans_ite (fun _ => lfs_scans_pure _ kept) fun _ => lfs_scans_ite (fun _ => ?_) fun _ => lfs_scans_pure _ kept
  exact lfs_scans_bind _ _ (mount_superblock_scans servable fetched.dir kept) fun err _ => lfs_scans_pure _ kept

theorem mount_gstate_scans (servable : Servable cfg 24) (dir : Mdir) (inside : dir.off.toNat ≤ cfg.blockSize.toNat) :
    LfsScans cfg 24 (mountGstate cfg dir) fun _ => True := by
  have twelve : (lfsTagSize (lfsMktag lfsTypeMovestate 0 12)).toNat ≤ 24 := by
    rw [mktag_size]
    decide
  have gets (gstate : Gstate) : Scans cfg 24 (lfsDirGetgstate cfg dir gstate) fun _ => True := by
    refine scans_bind _ _ (dir_get_scans servable dir _ _ twelve inside) fun got _ => ?_
    exact scans_ite (fun _ => scans_pure _ trivial) fun _ => scans_ite (fun _ => scans_pure _ trivial) fun _ => scans_pure _ trivial
  refine lfs_scans_bind _ _ lfs_scans_get fun lfs _ => lfs_scans_bind _ _ (lfs_scans_lift _ (gets lfs.gstate)) fun found _ => ?_
  exact lfs_scans_then _ _ (lfs_scans_modify _) (lfs_scans_pure _ trivial)

theorem mount_loop_scans (servable : Servable cfg 24) (left : Nat) :
    ∀ (dir : Mdir), left ≤ (cfg.blockCount / 2).toNat → dir.off.toNat ≤ cfg.blockSize.toNat →
      LfsScans cfg 24 (mountLoop cfg (left + 1) dir (turnsTaken cfg left)) fun _ => True := by
  induction left with
  | zero =>
      intro dir within inside
      rw [mountLoop]
      refine lfs_scans_ite (fun _ => lfs_scans_pure _ trivial) fun _ => ?_
      rw [if_pos ((turns_full cfg 0 within).mpr rfl)]
      exact lfs_scans_pure _ trivial
  | succ left ih =>
      intro dir within inside
      have room : ¬ turnsTaken cfg (left + 1) ≥ cfg.blockCount / 2 := by
        rw [turns_full cfg _ within]
        omega
      rw [mountLoop, if_neg room, turns_next cfg left]
      refine lfs_scans_ite (fun _ => lfs_scans_pure _ trivial) fun _ => ?_
      refine lfs_scans_bind _ _ (mount_pair_scans servable dir inside) fun done kept => ?_
      refine lfs_scans_ite (fun _ => lfs_scans_pure _ trivial) fun _ => ?_
      refine lfs_scans_bind _ _ (mount_gstate_scans servable done.2.2 kept) fun err _ => ?_
      exact lfs_scans_ite (fun _ => lfs_scans_pure _ trivial) fun _ => ih _ (by omega) kept

end

-- The geometry a mount comes to an end on: a cache of one read unit at least,
-- and no sum of an offset, a hint and a unit that wraps.
structure Mountable (cfg : Config) : Prop where
  caches : cfg.readSize.toNat ≤ cfg.cacheSize.toNat
  blocks : 0 < cfg.blockSize.toNat
  room : cfg.blockSize.toNat + max cfg.blockSize.toNat 24 + cfg.readSize.toNat ≤ 2 ^ 32

theorem mount_rest_scans {cfg : Config} (servable : Servable cfg 24) : LfsScans cfg 24 (do
    let err ← mountLoop cfg ((cfg.blockCount / 2).toNat + 1) (Mdir.ofTail ⟨0, 1⟩) 0
    if err ≠ 0 then return err
    mountFinish cfg) fun _ => True := by
  have loop := mount_loop_scans servable _ (Mdir.ofTail ⟨0, 1⟩) (Nat.le_refl (cfg.blockCount / 2).toNat) (Nat.zero_le _)
  rw [turns_start] at loop
  refine lfs_scans_bind _ _ loop fun err _ => lfs_scans_ite (fun _ => lfs_scans_pure _ trivial) fun _ => ?_
  refine lfs_scans_bind _ _ lfs_scans_get fun lfs _ => lfs_scans_ite (fun _ => lfs_scans_pure _ trivial) fun _ => ?_
  exact lfs_scans_then _ _ (lfs_scans_modify _) (lfs_scans_then _ _ (lfs_scans_modify _) (lfs_scans_pure _ trivial))

theorem mount_returns {cfg : Config} {device : Device} (mountable : Mountable cfg) (returns : device.Returns) (lfs : Lfs) (rcache : Cache) :
    (exec cfg device (lfsMount cfg) lfs rcache).isSome := by
  obtain ⟨err, started, last, inited, accepted, zeroed⟩ := init_exec cfg device lfs rcache
  rw [lfsMount, exec_bind, inited, Option.bind_some]
  by_cases refused : err ≠ 0
  · rw [if_pos refused]
    rfl
  rw [if_neg refused]
  have passed := Decidable.not_not.mp refused
  have units : cfg.readSize.toNat ≠ 0 := fun zero => (accepted.mp passed).reads (UInt32.toNat_inj.mp zero)
  have servable : Servable cfg 24 :=
    ⟨Nat.pos_of_ne_zero units, mountable.caches, by decide, mountable.blocks, mountable.room⟩
  have eased : Eased cfg 24 last := by
    rw [(zeroed passed).1]
    exact Or.inr (zeroed_on_unit cfg rcache)
  obtain ⟨result, after, ran, -⟩ := Lib.Prog.run_always_kept (fun request state => server_answers servable returns noCallback request state)
    _ (last, ()) ((mount_rest_scans servable).always started) eased
  rw [exec, Option.isSome_map]
  exact Option.isSome_iff_exists.mpr ⟨_, ran⟩

-- The calls and the one call, on every configuration; both come to an end on a
-- geometry a mount comes to an end on.
theorem mount_calls_match (cfg : Config) (device : Device) (dir : Mdir) (cycle : UInt32) (lfs : Lfs) (rcache : Cache) :
    exec cfg device (lfsMountCalls cfg ⟨0, dir, cycle⟩) lfs rcache =
        (exec cfg device (lfsMount cfg) lfs rcache).map (fun ran => (some ran.1, ran.2)) ∧
      (Mountable cfg → device.Returns → (exec cfg device (lfsMount cfg) lfs rcache).isSome) := by
  refine ⟨?_, fun mountable returns => mount_returns mountable returns lfs rcache⟩
  rw [mount_calls_program, exec, exec]
  have mapped := Lib.Prog.run_map (cachedServer cfg device noCallback) (fun answer : Int32 × Lfs => (some answer.1, answer.2)) (lfsMount cfg lfs)
    (rcache, ())
  have outside : (some <$> lfsMount cfg) lfs = (fun answer : Int32 × Lfs => (some answer.1, answer.2)) <$> lfsMount cfg lfs := rfl
  rw [outside, mapped, Option.map_map, Option.map_map]
  rfl

theorem formatted_calls_mount : ∃ after last, exec (sectorConfig 16) formattedCard (lfsMountCalls (sectorConfig 16) ⟨0, Mdir.ofTail ⟨0, 0⟩, 0⟩)
    zeroLfs zeroCache = some (some 0, after, last) ∧ after.root = ⟨0, 1⟩ := by
  obtain ⟨calls, ends⟩ := mount_calls_match (sectorConfig 16) formattedCard (Mdir.ofTail ⟨0, 0⟩) 0 zeroLfs zeroCache
  obtain ⟨⟨err, after, last⟩, mounted⟩ := Option.isSome_iff_exists.mp (ends ⟨by decide, by decide, by decide⟩ fun _ _ _ => rfl)
  have observed : (exec (sectorConfig 16) formattedCard (lfsMount (sectorConfig 16)) zeroLfs zeroCache).map (fun ran => (ran.1, ran.2.1.root)) =
      some (0, ⟨0, 1⟩) := by decide +kernel
  rw [mounted] at observed calls
  obtain ⟨rfl, root⟩ := Prod.mk.inj (Option.some.inj observed)
  exact ⟨after, last, calls, root⟩

-- Where the place of a byte in its read unit lies past the cache, a load never
-- brings it in, and the read goes on for as many turns as it is given.
theorem wide_unit_never_read (cfg : Config) (device : Device) (hint block off : UInt32) (data : List UInt8) (some : data ≠ [])
    (valid : block < cfg.blockCount) (positive : 0 < cfg.cacheSize.toNat) (beyond : cfg.cacheSize.toNat ≤ off.toNat % cfg.readSize.toNat)
    (answers : ∀ start size, ∃ result, device block start size = Option.some result ∧ result.err = 0) (fuel : Nat) :
    ∀ (rcache : Cache), ¬ (rcache.covers block off = true ∧ off ≥ rcache.off) →
      lfsBdReadLoop cfg device none hint block fuel off data rcache = none := by
  obtain ⟨byte, rest, rfl⟩ := List.exists_cons_of_ne_nil some
  induction fuel with
  | zero => exact fun _ _ => rfl
  | succ fuel ih =>
      intro rcache missed
      have load : bdTurn cfg none rcache hint block off (byte :: rest).length = .load := by
        have middle : ¬ off % cfg.readSize = 0 := fun start => by
          rw [← UInt32.toNat_mod, start, UInt32.toNat_zero] at beyond
          omega
        rw [bdTurn, bdTurnRcache, if_neg missed]
        exact if_neg fun bypass => middle bypass.2.1
      rw [lfsBdReadLoop]
      dsimp only
      rw [load]
      dsimp only
      obtain ⟨result, answered, fine⟩ := answers (rcacheLoad cfg rcache hint block off).off (rcacheLoad cfg rcache hint block off).size.toNat
      rw [if_neg (UInt32.not_le.mpr valid), answered, Option.bind_some, if_neg (not_not_intro fine)]
      refine ih _ fun loaded => ?_
      have start : (rcacheLoad cfg rcache hint block off).off.toNat = off.toNat - off.toNat % cfg.readSize.toNat := aligndown_toNat off cfg.readSize
      have few : (rcacheLoad cfg rcache hint block off).size.toNat ≤ cfg.cacheSize.toNat := by
        rw [rcacheLoad, lfs_min_toNat]
        exact Nat.min_le_right _ _
      have offLow := Nat.mod_le off.toNat cfg.readSize.toNat
      have small := off.toNat_lt
      obtain ⟨-, within⟩ : block = (rcacheLoad cfg rcache hint block off).block ∧
          off < (rcacheLoad cfg rcache hint block off).off + (rcacheLoad cfg rcache hint block off).size := by
        simpa [Cache.covers] using loaded.1
      rw [UInt32.lt_iff_toNat_lt, UInt32.toNat_add, start] at within
      omega

-- A read unit twice the cache, which lfs_init accepts, and a block whose first
-- entry goes on past the cache.
def wideUnitConfig (progSize : UInt32) : Config := ⟨1024, progSize, 1024, 16, -1, 512, 8, 0, 0, 0⟩

def longEntryImage : Image := fun block off =>
  if block = 0 then [0x00, 0x00, 0x00, 0x00, 0xff, 0xef, 0xfd, 0xa7].getD off.toNat 0x00 else 0xff

theorem mount_calls_never_return : Accepted (wideUnitConfig 512) ∧ (imageDevice longEntryImage).Returns ∧
    exec (wideUnitConfig 512) (imageDevice longEntryImage) (lfsMountCalls (wideUnitConfig 512) ⟨0, Mdir.ofTail ⟨0, 0⟩, 0⟩) zeroLfs zeroCache =
      none ∧
    ∀ fuel, lfsBdReadLoop (wideUnitConfig 512) (imageDevice longEntryImage) none 1024 0 fuel 512 (zeros 1) zeroCache = none := by
  refine ⟨⟨by decide, by decide, by decide, by decide, by decide, by decide⟩, fun _ _ _ => rfl, ?_, fun fuel => ?_⟩
  · rw [← Option.not_isSome_iff_eq_none, Bool.not_eq_true]
    decide +kernel
  · exact wide_unit_never_read (wideUnitConfig 512) _ 1024 0 512 (zeros 1) (by decide) (by decide) (by decide) (by decide)
      (fun _ _ => ⟨_, rfl, rfl⟩) fuel _ (by decide)

-- A mounted filesystem whose scan of the metadata comes to an end.
structure Traversable (cfg : Config) (files : Nat → LfsFile) (lfs : Lfs) (rcache : Cache) : Prop extends Servable cfg 8 where
  rcache : Eased cfg 8 rcache
  handles : ∀ handle ∈ lfs.mlist, Eased cfg 8 (files handle).cache

theorem traverse_returns {δ : Type} {cfg : Config} {device : Device} {files : Nat → LfsFile} {lfs : Lfs} {rcache : Cache}
    (traversable : Traversable cfg files lfs rcache) (returns : device.Returns) (cb : Callback δ) (includeorphans : Bool) (data : δ) :
    ((lift (lfsFsTraverseraw cfg files includeorphans) lfs).run (cachedServer cfg device cb) (rcache, data)).isSome := by
  have scan := traverseraw_always traversable.toServable files includeorphans lfs.toLfsBase traversable.handles
  obtain ⟨result, after, ran, -⟩ := Lib.Prog.run_always_kept
    (fun request state => server_answers traversable.toServable returns cb request state) _ (rcache, data)
    (Lib.Prog.always_handle seedHandler _ lfs.seed scan) traversable.rcache
  rw [lift, Lib.Prog.run_map, Option.isSome_map]
  exact Option.isSome_iff_exists.mpr ⟨_, ran⟩

-- Both traversals run from the same state and memory: the blocks reported, the
-- result, and what is left behind agree, and none of the calls is one too many.
theorem traverse_calls_match {δ : Type} (cfg : Config) (device : Device) (cb : Callback δ) (files : Nat → LfsFile) (includeorphans : Bool)
    (dir : Mdir) (cycle : UInt32) (lfs : Lfs) (rcache : Cache) (data : δ) :
    (lift (lfsFsTraverserawCalls cfg files includeorphans ⟨0, dir, cycle⟩) lfs).run (cachedServer cfg device cb.logged) (rcache, ([], data)) =
        ((lift (lfsFsTraverseraw cfg files includeorphans) lfs).run (cachedServer cfg device cb.logged) (rcache, ([], data))).map
          (fun ran => ((some ran.1.1, ran.1.2), ran.2)) ∧
      (Traversable cfg files lfs rcache → device.Returns →
        ((lift (lfsFsTraverseraw cfg files includeorphans) lfs).run (cachedServer cfg device cb.logged) (rcache, ([], data))).isSome) := by
  refine ⟨?_, fun traversable returns => traverse_returns traversable returns cb.logged includeorphans ([], data)⟩
  rw [traverse_calls_program, lift_map]
  exact Lib.Prog.run_map _ (fun answer : Int32 × Lfs => (some answer.1, answer.2)) _ _

theorem formatted_calls_traverse : ∃ after last,
    (lift (lfsFsTraverserawCalls (sectorConfig 16) noFiles true ⟨0, Mdir.ofTail ⟨0, 0⟩, 0⟩) (mountedCard 16).1).run
      (cachedServer (sectorConfig 16) formattedCard noCallback.logged) ((mountedCard 16).2, ([], ())) =
        some ((some 0, after), (last, ([0, 1], ()))) := by
  obtain ⟨calls, ends⟩ := traverse_calls_match (sectorConfig 16) formattedCard noCallback noFiles true (Mdir.ofTail ⟨0, 0⟩) 0 (mountedCard 16).1
    (mountedCard 16).2 ()
  have traversable : Traversable (sectorConfig 16) noFiles (mountedCard 16).1 (mountedCard 16).2 :=
    ⟨⟨by decide, by decide, by decide, by decide, by decide⟩, Or.inl (by decide), fun _ _ => Or.inl (by decide)⟩
  obtain ⟨⟨⟨err, after⟩, last, log, rest⟩, ran⟩ := Option.isSome_iff_exists.mp (ends traversable fun _ _ _ => rfl)
  have observed : ((lift (lfsFsTraverseraw (sectorConfig 16) noFiles true) (mountedCard 16).1).run
      (cachedServer (sectorConfig 16) formattedCard noCallback.logged) ((mountedCard 16).2, ([], ()))).map (fun ran => (ran.1.1, ran.2.2.1)) =
      some (0, [0, 1]) := by decide +kernel
  rw [ran] at observed calls
  obtain ⟨rfl, rfl⟩ := Prod.mk.inj (Option.some.inj observed)
  exact ⟨after, last, calls⟩

-- The superblock's commit padded to 64 bytes is short enough for that geometry;
-- the calls find a log that has grown past the cache since.
def shortCommit : List UInt8 := superblockCommit.take 48 ++ [0x70, 0x1f, 0xfc, 0x14, 0x71, 0x28, 0x44, 0xf3]

def shortImage : Image := fun block off => if block = 0 then shortCommit.getD off.toNat 0xff else 0xff

def mountedWide : Option (Int32 × Lfs × Cache) :=
  exec (wideUnitConfig 64) (imageDevice shortImage) (lfsMount (wideUnitConfig 64)) zeroLfs zeroCache

theorem traverse_calls_never_return : ∃ lfs rcache, mountedWide = some (0, lfs, rcache) ∧ (imageDevice longEntryImage).Returns ∧
    (lift (lfsFsTraverserawCalls (wideUnitConfig 64) noFiles true ⟨0, Mdir.ofTail ⟨0, 0⟩, 0⟩) lfs).run
      (cachedServer (wideUnitConfig 64) (imageDevice longEntryImage) noCallback.logged) (Calls.lfsCacheDrop rcache, ([], ())) = none := by
  have observed : mountedWide.map (fun ran => (ran.1, ((lift (lfsFsTraverserawCalls (wideUnitConfig 64) noFiles true ⟨0, Mdir.ofTail ⟨0, 0⟩, 0⟩)
      ran.2.1).run (cachedServer (wideUnitConfig 64) (imageDevice longEntryImage) noCallback.logged)
        (Calls.lfsCacheDrop ran.2.2, ([], ()))).isSome)) = some (0, false) := by decide +kernel
  obtain ⟨⟨err, lfs, rcache⟩, mounted, same⟩ := Option.map_eq_some_iff.mp observed
  obtain ⟨rfl, never⟩ := Prod.mk.inj same
  exact ⟨lfs, rcache, mounted, fun _ _ _ => rfl, Option.not_isSome_iff_eq_none.mp (by rw [never]; decide)⟩

end SDCardFs.Littlefs

import SDCardFs.Littlefs.Alloc

set_option autoImplicit false

namespace SDCardFs.Littlefs

structure Superblock where
  version : UInt32
  blockSize : UInt32
  blockCount : UInt32
  nameMax : UInt32
  fileMax : UInt32
  attrMax : UInt32
deriving DecidableEq, Repr

def lfsSuperblockFromle32 (bytes : List UInt8) : Superblock where
  version := lfsFromle32 bytes
  blockSize := lfsFromle32 (bytes.drop 4)
  blockCount := lfsFromle32 (bytes.drop 8)
  nameMax := lfsFromle32 (bytes.drop 12)
  fileMax := lfsFromle32 (bytes.drop 16)
  attrMax := lfsFromle32 (bytes.drop 20)

-- The same size is checked twice, and three times in each check.
def lfsInit (cfg : Config) : LfsM Int32 := do
  if cfg.readSize = 0 then
    return lfsErrNomem
  if 4 * lfsNpw2 (0xffffffff / (cfg.blockSize - 2 * 4)) > cfg.blockSize then
    return lfsErrNomem
  if cfg.blockCycles = 0 then
    return lfsErrInval
  lift (request .zeroRcache)
  modify fun lfs => { lfs with pcache := lfsCacheZero cfg lfs.pcache }
  if cfg.lookaheadSize = 0 ∨ cfg.lookaheadSize % 8 ≠ 0 then
    return lfsErrNomem
  if cfg.nameMax > lfsNameMax then
    return lfsErrNbig
  modify fun lfs => { lfs with nameMax := if cfg.nameMax = 0 then lfsNameMax else cfg.nameMax }
  if cfg.fileMax > lfsFileMax then
    return lfsErrFbig
  modify fun lfs => { lfs with fileMax := if cfg.fileMax = 0 then lfsFileMax else cfg.fileMax }
  modify fun lfs => { lfs with attrMax := if cfg.attrMax = 0 then lfsAttrMax else cfg.attrMax }
  modify fun lfs => { lfs with
    root := ⟨lfsBlockNull, lfsBlockNull⟩
    mlist := []
    seed := 0
    gdisk := Gstate.zero
    gstate := Gstate.zero
    gdelta := Gstate.zero }
  return 0

def mountLimits (superblock : Superblock) : LfsM Int32 := do
  if superblock.nameMax ≠ 0 then
    if superblock.nameMax > (← get).nameMax then
      return lfsErrInval
    modify fun lfs => { lfs with nameMax := superblock.nameMax }
  if superblock.fileMax ≠ 0 then
    if superblock.fileMax > (← get).fileMax then
      return lfsErrInval
    modify fun lfs => { lfs with fileMax := superblock.fileMax }
  if superblock.attrMax ≠ 0 then
    if superblock.attrMax > (← get).attrMax then
      return lfsErrInval
    modify fun lfs => { lfs with attrMax := superblock.attrMax }
  return 0

def mountSuperblock (cfg : Config) (dir : Mdir) : LfsM Int32 := do
  modify fun lfs => { lfs with root := dir.pair }
  let (tag, bytes) ← lift (lfsDirGet cfg dir (lfsMktag 0x7ff 0x3ff 0) (lfsMktag lfsTypeInlinestruct 0 24))
  if tag < 0 then
    return tag
  let superblock := lfsSuperblockFromle32 bytes
  let major := superblock.version >>> 16 &&& 0xffff
  let minor := superblock.version &&& 0xffff
  if major ≠ lfsDiskVersionMajor ∨ minor > lfsDiskVersionMinor then
    return lfsErrInval
  mountLimits superblock

-- "littlefs"
def superblockMagic : DirFindMatch := ⟨[0x6c, 0x69, 0x74, 0x74, 0x6c, 0x65, 0x66, 0x73], 8⟩

-- One metadata pair up to its global state, the part both mounts have word for
-- word: the status, whether there was a superblock, and dir.
def mountPair (cfg : Config) (dir : Mdir) : LfsM (Int32 × Bool × Mdir) := do
  let fetched ← lift (lfsDirFetchmatch cfg dir dir.tail (lfsMktag 0x7ff 0x3ff 0) (lfsMktag lfsTypeSuperblock 0 8)
    (lfsDirFindMatch superblockMagic))
  if fetched.tag < 0 then
    return (fetched.tag, false, fetched.dir)
  if fetched.tag ≠ 0 ∧ ¬ lfsTagIsdelete fetched.tag.toUInt32 then
    let err ← mountSuperblock cfg fetched.dir
    return (err, true, fetched.dir)
  return (0, false, fetched.dir)

def mountGstate (cfg : Config) (dir : Mdir) : LfsM Int32 := do
  let (err, gstate) ← lift (lfsDirGetgstate cfg dir (← get).gstate)
  modify fun lfs => { lfs with gstate := gstate }
  return err

def mountFinish (cfg : Config) : LfsM Int32 := do
  if lfsPairIsnull (← get).root then
    return lfsErrInval
  modify fun lfs =>
    let gstate := { lfs.gstate with tag := lfs.gstate.tag + if lfsTagIsvalid lfs.gstate.tag then 0 else 1 }
    { lfs with gstate := gstate, gdisk := gstate }
  modify (lfsAllocReset cfg)
  return 0

-- cycle grows up to blockCount / 2, so one turn more is enough.
def mountLoop (cfg : Config) : Nat → Mdir → UInt32 → LfsM Int32
  | 0, _, _ => lift endless
  | fuel + 1, dir, cycle => do
      if lfsPairIsnull dir.tail then
        return 0
      if cycle ≥ cfg.blockCount / 2 then
        return lfsErrCorrupt
      let (err, _, dir) ← mountPair cfg dir
      if err ≠ 0 then
        return err
      let err ← mountGstate cfg dir
      if err ≠ 0 then
        return err
      mountLoop cfg fuel dir (cycle + 1)

-- lfs_unmount on the way out frees nothing: the buffers are the caller's.
def lfsMount (cfg : Config) : LfsM Int32 := do
  let err ← lfsInit cfg
  if err ≠ 0 then
    return err
  let err ← mountLoop cfg ((cfg.blockCount / 2).toNat + 1) (Mdir.ofTail ⟨0, 1⟩) 0
  if err ≠ 0 then
    return err
  mountFinish cfg

def lfsMountAsync (cfg : Config) (findglobalState : Bool) (iter : AsyncIter) : LfsM (Int32 × AsyncIter) := do
  if iter.state = 0 then
    let err ← lfsInit cfg
    if err ≠ 0 then
      return (err, iter)
    return (0, ⟨1, Mdir.ofTail ⟨0, 1⟩, 0⟩)
  else if iter.state = 1 then
    if lfsPairIsnull iter.dir.tail then
      return (0, { iter with state := 2 })
    if iter.cycle ≥ cfg.blockCount / 2 then
      return (lfsErrCorrupt, iter)
    let (err, found, dir) ← mountPair cfg iter.dir
    let iter := { iter with dir := dir, cycle := iter.cycle + 1 }
    if err ≠ 0 then
      return (err, iter)
    if found ∧ ¬ findglobalState then
      return (0, { iter with state := 2 })
    let err ← mountGstate cfg dir
    return (err, iter)
  else if iter.state = 2 then
    let err ← mountFinish cfg
    if err ≠ 0 then
      return (err, iter)
    return (0, { iter with state := 3 })
  else
    return (0, iter)

def lfsMountCalls (cfg : Config) (iter : AsyncIter) : LfsM (Option Int32) :=
  Option.map Prod.fst <$> Lib.drive (lfsMountAsync cfg true) failedErr AsyncIter.over (asyncCalls cfg) iter

theorem drive_mount_finish (cfg : Config) (calls : Nat) (dir : Mdir) (cycle : UInt32) :
    Option.map Prod.fst <$> Lib.drive (lfsMountAsync cfg true) failedErr AsyncIter.over (calls + 1) ⟨2, dir, cycle⟩ =
      some <$> mountFinish cfg := by
  have call : lfsMountAsync cfg true ⟨2, dir, cycle⟩ = (do
      let err ← mountFinish cfg
      if err ≠ 0 then return (err, ⟨2, dir, cycle⟩) else return (0, ⟨3, dir, cycle⟩)) := by
    simp [lfsMountAsync]
  rw [Lib.drive_call, call]
  simp only [map_eq_pure_bind, bind_assoc]
  apply congrArg (mountFinish cfg >>= ·)
  funext err
  by_cases failed : err = 0
  · simp [failed, failedErr, AsyncIter.over]
  · simp [failed, failedErr]

def mountTurn (cfg : Config) (dir : Mdir) : LfsM (Int32 × Mdir) := do
  let (err, _, dir) ← mountPair cfg dir
  if err ≠ 0 then
    return (err, dir)
  let err ← mountGstate cfg dir
  return (err, dir)

def mountFrom (cfg : Config) (left : Nat) (dir : Mdir) : LfsM Int32 := do
  let err ← mountLoop cfg (left + 1) dir (turnsTaken cfg left)
  if err ≠ 0 then
    return err
  mountFinish cfg

theorem drive_mount_pairs (cfg : Config) (left : Nat) (dir : Mdir) (within : left ≤ (cfg.blockCount / 2).toNat) :
    Option.map Prod.fst <$> Lib.drive (lfsMountAsync cfg true) failedErr AsyncIter.over (left + 3) (AsyncIter.atPair cfg left dir) =
      some <$> mountFrom cfg left dir := by
  apply Lib.drive_loop (mountFrom cfg) (AsyncIter.atPair cfg) 3 (cfg.blockCount / 2).toNat
  · intro left dir within
    by_cases ended : lfsPairIsnull dir.tail = true
    · have quiet : lfsMountAsync cfg true (AsyncIter.atPair cfg left dir) = pure (0, ⟨2, dir, turnsTaken cfg left⟩) := by
        simp [lfsMountAsync, AsyncIter.atPair, ended]
      left
      rw [Lib.drive_quiet _ _ _ 0 quiet rfl rfl, drive_mount_finish]
      simp [mountFrom, mountLoop, ended]
    · cases left with
      | zero =>
          have full := (turns_full cfg 0 within).mpr rfl
          have last : lfsMountAsync cfg true (AsyncIter.atPair cfg 0 dir) = pure (lfsErrCorrupt, AsyncIter.atPair cfg 0 dir) := by
            simp [lfsMountAsync, AsyncIter.atPair, ended, full]
          left
          rw [Lib.drive_last _ _ _ _ last (Or.inl rfl)]
          simp [mountFrom, mountLoop, ended, full, lfsErrCorrupt]
      | succ fewer =>
          have room : ¬ turnsTaken cfg (fewer + 1) ≥ cfg.blockCount / 2 := by
            rw [turns_full cfg _ within]
            omega
          right
          refine ⟨fewer, mountTurn cfg dir, rfl, fun _ => rfl, ?_, ?_⟩
          · have scanning : ¬ (1 : UInt8) = 0 := by decide
            simp only [lfsMountAsync, AsyncIter.atPair, mountTurn, bind_assoc, scanning, ended, room, turns_next cfg fewer,
              ↓reduceIte, Bool.false_eq_true]
            apply congrArg (mountPair cfg dir >>= ·)
            funext found
            by_cases failed : found.1 = 0
            · simp [failed]
            · simp [failed]
          · simp only [mountFrom, mountLoop, mountTurn, bind_assoc, ended, room, turns_next cfg fewer, ↓reduceIte, Bool.false_eq_true]
            apply congrArg (mountPair cfg dir >>= ·)
            funext found
            by_cases failed : found.1 = 0
            · simp only [failed, ne_eq, not_true_eq_false, ↓reduceIte, bind_assoc, pure_bind]
              apply congrArg (mountGstate cfg found.2.2 >>= ·)
              funext err
              by_cases bad : err = 0
              · simp [bad, failedErr]
              · simp [bad, failedErr]
            · simp [failed, failedErr]
  · exact within

theorem mount_calls_program (cfg : Config) (dir : Mdir) (cycle : UInt32) :
    lfsMountCalls cfg ⟨0, dir, cycle⟩ = some <$> lfsMount cfg := by
  have first : lfsMountAsync cfg true ⟨0, dir, cycle⟩ = (do
      let err ← lfsInit cfg
      if err ≠ 0 then return (err, ⟨0, dir, cycle⟩) else return (0, ⟨1, Mdir.ofTail ⟨0, 1⟩, 0⟩)) := by
    simp [lfsMountAsync]
  have scan := drive_mount_pairs cfg (cfg.blockCount / 2).toNat (Mdir.ofTail ⟨0, 1⟩) (Nat.le_refl _)
  rw [AsyncIter.atPair, mountFrom, turns_start] at scan
  rw [lfsMountCalls, asyncCalls, Lib.drive_call, first, lfsMount]
  simp only [map_eq_pure_bind, bind_assoc] at scan ⊢
  apply congrArg (lfsInit cfg >>= ·)
  funext err
  by_cases failed : err = 0
  · simpa [failed, failedErr, AsyncIter.over] using scan
  · simp [failed, failedErr]

end SDCardFs.Littlefs

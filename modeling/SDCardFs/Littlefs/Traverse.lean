import SDCardFs.Lib.Resume
import SDCardFs.Littlefs.Metadata

set_option autoImplicit false

namespace SDCardFs.Littlefs

def lfsCtzIndex (cfg : Config) (off : UInt32) : UInt32 :=
  let b := cfg.blockSize - 2 * 4
  let i := off / b
  if i = 0 then 0 else (off - 4 * (lfsPopc (i - 1) + 2)) / b

def readHeads (pcache : Option Cache) (head : UInt32) (two : Bool) : BaseM (Int32 × List UInt8) :=
  match pcache, two with
  | none, false => bdRead 4 head 0 (zeros 4)
  | none, true => bdRead 8 head 0 (zeros 8)
  | some pcache, false => bdReadThrough pcache 4 head (zeros 4) (by decide)
  | some pcache, true => bdReadThrough pcache 8 head (zeros 8) (by decide)

-- index goes down by one or two a turn, so index + 1 turns are enough.
def ctzTraverseLoop (pcache : Option Cache) : Nat → UInt32 → UInt32 → BaseM Int32
  | 0, _, _ => endless
  | fuel + 1, head, index => do
      let err ← report head
      if err ≠ 0 then
        return err
      if index = 0 then
        return 0
      if index &&& 1 = 0 then
        let (err, heads) ← readHeads pcache head true
        if err ≠ 0 then
          return err
        let err ← report (lfsFromle32 heads)
        if err ≠ 0 then
          return err
        ctzTraverseLoop pcache fuel (lfsFromle32 (heads.drop 4)) (index - 2)
      else
        let (err, heads) ← readHeads pcache head false
        if err ≠ 0 then
          return err
        ctzTraverseLoop pcache fuel (lfsFromle32 heads) (index - 1)

def lfsCtzTraverse (cfg : Config) (pcache : Option Cache) (head size : UInt32) : BaseM Int32 :=
  if size = 0 then pure 0
  else ctzTraverseLoop pcache ((lfsCtzIndex cfg (size - 1)).toNat + 1) head (lfsCtzIndex cfg (size - 1))

-- for (i = 0; i < 2; i++) cb(data, pair[i])
def reportPair (pair : Pair) : BaseM Int32 := do
  let err ← report pair.first
  if err ≠ 0 then
    return err
  report pair.second

def traverseId (cfg : Config) (includeorphans : Bool) (dir : Mdir) (id : UInt16) : BaseM Int32 := do
  let (tag, ctz) ← lfsDirGet cfg dir (lfsMktag 0x700 0x3ff 0) (lfsMktag lfsTypeStruct id.toUInt32 8)
  if tag < 0 then
    return if tag = lfsErrNoent then 0 else tag
  let pair := lfsPairFromle32 ctz
  if lfsTagType3 tag.toUInt32 = lfsTypeCtzstruct then
    lfsCtzTraverse cfg none pair.first pair.second
  else if includeorphans ∧ lfsTagType3 tag.toUInt32 = lfsTypeDirstruct then
    reportPair pair
  else
    return 0

def traverseIds (cfg : Config) (includeorphans : Bool) (dir : Mdir) : Nat → UInt16 → BaseM Int32
  | 0, _ => pure 0
  | count + 1, id => do
      let err ← traverseId cfg includeorphans dir id
      if err ≠ 0 then
        return err
      traverseIds cfg includeorphans dir count (id + 1)

def traverseFile (cfg : Config) (f : LfsFile) : BaseM Int32 := do
  if f.type ≠ lfsTypeReg then
    return 0
  let err ←
    if f.flags &&& lfsFDirty ≠ 0 ∧ f.flags &&& lfsFInline = 0 then lfsCtzTraverse cfg (some f.cache) f.ctzHead f.ctzSize
    else pure 0
  if err ≠ 0 then
    return err
  if f.flags &&& lfsFWriting ≠ 0 ∧ f.flags &&& lfsFInline = 0 then
    lfsCtzTraverse cfg (some f.cache) f.block f.pos
  else
    return 0

-- files is the memory the handles of mlist point into.
def traverseFiles (cfg : Config) (files : Nat → LfsFile) : List Nat → BaseM Int32
  | [] => pure 0
  | f :: next => do
      let err ← traverseFile cfg (files f)
      if err ≠ 0 then
        return err
      traverseFiles cfg files next

-- One metadata pair, the part both traversals have word for word: its blocks,
-- then its ids. dir is as the fetch left it.
def traversePair (cfg : Config) (includeorphans : Bool) (dir : Mdir) : BaseM (Int32 × Mdir) := do
  let err ← reportPair dir.tail
  if err ≠ 0 then
    return (err, dir)
  let (err, dir) ← lfsDirFetch cfg dir dir.tail
  if err ≠ 0 then
    return (err, dir)
  let err ← traverseIds cfg includeorphans dir dir.count.toNat 0
  return (err, dir)

-- cycle grows up to blockCount / 2, so one turn more is enough.
def traverseMetadata (cfg : Config) (includeorphans : Bool) : Nat → Mdir → UInt32 → BaseM Int32
  | 0, _, _ => endless
  | fuel + 1, dir, cycle => do
      if lfsPairIsnull dir.tail then
        return 0
      if cycle ≥ cfg.blockCount / 2 then
        return lfsErrCorrupt
      let (err, dir) ← traversePair cfg includeorphans dir
      if err ≠ 0 then
        return err
      traverseMetadata cfg includeorphans fuel dir (cycle + 1)

def traverseOpenFiles (cfg : Config) (files : Nat → LfsFile) : BaseM Int32 := do
  let lfs ← read
  traverseFiles cfg files lfs.mlist

def lfsFsTraverseraw (cfg : Config) (files : Nat → LfsFile) (includeorphans : Bool) : BaseM Int32 := do
  let err ← traverseMetadata cfg includeorphans ((cfg.blockCount / 2).toNat + 1) (Mdir.ofTail ⟨0, 1⟩) 0
  if err ≠ 0 then
    return err
  traverseOpenFiles cfg files

-- The caller's memory behind state, dir and cycle.
structure AsyncIter where
  state : UInt8
  dir : Mdir
  cycle : UInt32
deriving DecidableEq, Repr

def lfsFsTraverserawAsync (cfg : Config) (files : Nat → LfsFile) (includeorphans : Bool) (iter : AsyncIter) : BaseM (Int32 × AsyncIter) := do
  if iter.state = 0 then
    return (0, ⟨1, Mdir.ofTail ⟨0, 1⟩, 0⟩)
  else if iter.state = 1 then
    if lfsPairIsnull iter.dir.tail then
      return (0, { iter with state := 2 })
    if iter.cycle ≥ cfg.blockCount / 2 then
      return (lfsErrCorrupt, iter)
    let (err, dir) ← traversePair cfg includeorphans iter.dir
    return (err, { iter with dir := dir, cycle := iter.cycle + 1 })
  else if iter.state = 2 then
    let err ← traverseOpenFiles cfg files
    if err ≠ 0 then
      return (err, iter)
    return (0, { iter with state := 3 })
  else
    return (0, iter)

def failedErr (err : Int32) : Bool := err ≠ 0

def AsyncIter.over (iter : AsyncIter) : Bool := iter.state = 3

def asyncCalls (cfg : Config) : Nat := (cfg.blockCount / 2).toNat + 4

def lfsFsTraverserawCalls (cfg : Config) (files : Nat → LfsFile) (includeorphans : Bool) (iter : AsyncIter) : BaseM (Option Int32) :=
  Option.map Prod.fst <$> Lib.drive (lfsFsTraverserawAsync cfg files includeorphans) failedErr AsyncIter.over (asyncCalls cfg) iter

-- The cycle counter of a tail list scan that may take left more turns.
def turnsTaken (cfg : Config) (left : Nat) : UInt32 := cfg.blockCount / 2 - UInt32.ofNat left

theorem turns_full (cfg : Config) (left : Nat) (within : left ≤ (cfg.blockCount / 2).toNat) :
    turnsTaken cfg left ≥ cfg.blockCount / 2 ↔ left = 0 := by
  have small := (cfg.blockCount / 2).toNat_lt
  rw [turnsTaken, ge_iff_le, UInt32.le_iff_toNat_le, UInt32.toNat_sub, UInt32.toNat_ofNat']
  omega

theorem turns_next (cfg : Config) (left : Nat) :
    turnsTaken cfg (left + 1) + 1 = turnsTaken cfg left := by
  have small := (cfg.blockCount / 2).toNat_lt
  apply UInt32.toNat_inj.mp
  simp only [turnsTaken, UInt32.toNat_add, UInt32.toNat_sub, UInt32.toNat_ofNat', UInt32.reduceToNat]
  omega

theorem turns_start (cfg : Config) : turnsTaken cfg (cfg.blockCount / 2).toNat = 0 := by
  simp only [turnsTaken, UInt32.ofNat_toNat, UInt32.sub_self]

theorem async_open_files (cfg : Config) (files : Nat → LfsFile) (includeorphans : Bool) (dir : Mdir) (cycle : UInt32) :
    lfsFsTraverserawAsync cfg files includeorphans ⟨2, dir, cycle⟩ = (do
      let err ← traverseOpenFiles cfg files
      if err ≠ 0 then pure (err, ⟨2, dir, cycle⟩) else pure (0, ⟨3, dir, cycle⟩)) := by
  simp [lfsFsTraverserawAsync]

theorem drive_open_files (cfg : Config) (files : Nat → LfsFile) (includeorphans : Bool) (calls : Nat) (dir : Mdir) (cycle : UInt32) :
    Option.map Prod.fst <$> Lib.drive (lfsFsTraverserawAsync cfg files includeorphans) failedErr AsyncIter.over (calls + 1) ⟨2, dir, cycle⟩ =
      some <$> traverseOpenFiles cfg files := by
  rw [Lib.drive_call, async_open_files]
  simp only [map_eq_pure_bind, bind_assoc]
  apply congrArg (traverseOpenFiles cfg files >>= ·)
  funext err
  by_cases failed : err = 0
  · simp [failed, failedErr, AsyncIter.over]
  · simp [failed, failedErr]

def traverseFrom (cfg : Config) (files : Nat → LfsFile) (includeorphans : Bool) (left : Nat) (dir : Mdir) : BaseM Int32 := do
  let err ← traverseMetadata cfg includeorphans (left + 1) dir (turnsTaken cfg left)
  if err ≠ 0 then
    return err
  traverseOpenFiles cfg files

def AsyncIter.atPair (cfg : Config) (left : Nat) (dir : Mdir) : AsyncIter := ⟨1, dir, turnsTaken cfg left⟩

section
variable (cfg : Config) (files : Nat → LfsFile) (includeorphans : Bool) (dir : Mdir)

theorem async_ended (left : Nat) (ended : lfsPairIsnull dir.tail = true) :
    lfsFsTraverserawAsync cfg files includeorphans (AsyncIter.atPair cfg left dir) = pure (0, ⟨2, dir, turnsTaken cfg left⟩) := by
  simp [lfsFsTraverserawAsync, AsyncIter.atPair, ended]

theorem metadata_ended (left : Nat) (ended : lfsPairIsnull dir.tail = true) :
    traverseMetadata cfg includeorphans (left + 1) dir (turnsTaken cfg left) = pure 0 := by
  simp [traverseMetadata, ended]

theorem async_full (tail : ¬ lfsPairIsnull dir.tail = true) :
    lfsFsTraverserawAsync cfg files includeorphans (AsyncIter.atPair cfg 0 dir) = pure (lfsErrCorrupt, AsyncIter.atPair cfg 0 dir) := by
  have full := (turns_full cfg 0 (Nat.zero_le _)).mpr rfl
  simp [lfsFsTraverserawAsync, AsyncIter.atPair, tail, full]

theorem metadata_full (tail : ¬ lfsPairIsnull dir.tail = true) :
    traverseMetadata cfg includeorphans 1 dir (turnsTaken cfg 0) = pure lfsErrCorrupt := by
  have full := (turns_full cfg 0 (Nat.zero_le _)).mpr rfl
  simp [traverseMetadata, tail, full]

theorem async_pair (left : Nat) (within : left + 1 ≤ (cfg.blockCount / 2).toNat) (tail : ¬ lfsPairIsnull dir.tail = true) :
    lfsFsTraverserawAsync cfg files includeorphans (AsyncIter.atPair cfg (left + 1) dir) = (do
      let done ← traversePair cfg includeorphans dir
      pure (done.1, AsyncIter.atPair cfg left done.2)) := by
  have room : ¬ turnsTaken cfg (left + 1) ≥ cfg.blockCount / 2 := by
    rw [turns_full cfg _ within]
    omega
  simp [lfsFsTraverserawAsync, AsyncIter.atPair, tail, room, turns_next cfg left]

theorem metadata_pair (left : Nat) (within : left + 1 ≤ (cfg.blockCount / 2).toNat) (tail : ¬ lfsPairIsnull dir.tail = true) :
    traverseMetadata cfg includeorphans (left + 2) dir (turnsTaken cfg (left + 1)) = (do
      let done ← traversePair cfg includeorphans dir
      if done.1 ≠ 0 then pure done.1 else traverseMetadata cfg includeorphans (left + 1) done.2 (turnsTaken cfg left)) := by
  have room : ¬ turnsTaken cfg (left + 1) ≥ cfg.blockCount / 2 := by
    rw [turns_full cfg _ within]
    omega
  rw [traverseMetadata]
  simp [tail, room, turns_next cfg left]

end

theorem drive_metadata (cfg : Config) (files : Nat → LfsFile) (includeorphans : Bool) (left : Nat) (dir : Mdir)
    (within : left ≤ (cfg.blockCount / 2).toNat) :
    Option.map Prod.fst <$> Lib.drive (lfsFsTraverserawAsync cfg files includeorphans) failedErr AsyncIter.over (left + 3)
      (AsyncIter.atPair cfg left dir) = some <$> traverseFrom cfg files includeorphans left dir := by
  apply Lib.drive_loop (traverseFrom cfg files includeorphans) (AsyncIter.atPair cfg) 3 (cfg.blockCount / 2).toNat
  · intro left dir within
    by_cases ended : lfsPairIsnull dir.tail = true
    · left
      rw [Lib.drive_quiet _ _ _ 0 (async_ended _ _ _ _ _ ended) rfl rfl, drive_open_files]
      simp [traverseFrom, metadata_ended _ _ _ _ ended]
    · cases left with
      | zero =>
          left
          rw [Lib.drive_last _ _ _ _ (async_full _ _ _ _ ended) (Or.inl rfl)]
          simp [traverseFrom, metadata_full _ _ _ ended, lfsErrCorrupt]
      | succ fewer =>
          right
          refine ⟨fewer, traversePair cfg includeorphans dir, rfl, fun _ => rfl, async_pair _ _ _ _ _ within ended, ?_⟩
          rw [traverseFrom, metadata_pair _ _ _ _ within ended]
          simp only [bind_assoc]
          apply congrArg (traversePair cfg includeorphans dir >>= ·)
          funext done
          by_cases failed : done.1 = 0
          · simp [failed, failedErr, traverseFrom]
          · simp [failed, failedErr]
  · exact within

theorem async_start (cfg : Config) (files : Nat → LfsFile) (includeorphans : Bool) (dir : Mdir) (cycle : UInt32) :
    lfsFsTraverserawAsync cfg files includeorphans ⟨0, dir, cycle⟩ = pure (0, ⟨1, Mdir.ofTail ⟨0, 1⟩, 0⟩) := by
  simp [lfsFsTraverserawAsync]

theorem traverse_from_start (cfg : Config) (files : Nat → LfsFile) (includeorphans : Bool) :
    traverseFrom cfg files includeorphans (cfg.blockCount / 2).toNat (Mdir.ofTail ⟨0, 1⟩) = lfsFsTraverseraw cfg files includeorphans := by
  rw [traverseFrom, turns_start, lfsFsTraverseraw]

theorem traverse_calls_program (cfg : Config) (files : Nat → LfsFile) (includeorphans : Bool) (dir : Mdir) (cycle : UInt32) :
    lfsFsTraverserawCalls cfg files includeorphans ⟨0, dir, cycle⟩ = some <$> lfsFsTraverseraw cfg files includeorphans := by
  have scan := drive_metadata cfg files includeorphans (cfg.blockCount / 2).toNat (Mdir.ofTail ⟨0, 1⟩) (Nat.le_refl _)
  rw [AsyncIter.atPair, turns_start, traverse_from_start] at scan
  rw [lfsFsTraverserawCalls, asyncCalls, Lib.drive_quiet _ _ _ 0 (async_start _ _ _ _ _) rfl rfl, scan]

def Callback.logged {δ : Type} (cb : Callback δ) : Callback (List UInt32 × δ) := fun (log, data) block =>
  ((cb data block).1, (log ++ [block], (cb data block).2))

end SDCardFs.Littlefs

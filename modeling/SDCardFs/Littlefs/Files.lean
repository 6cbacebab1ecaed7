import SDCardFs.Littlefs.Handles

set_option autoImplicit false

namespace SDCardFs.Littlefs

def lfsFromUserattrs : UInt32 := 0x102

def lfsSeekSet : Int32 := 0
def lfsSeekCur : Int32 := 1
def lfsSeekEnd : Int32 := 2

variable {σ : Type} (cfg : Config) (below : Below σ)

def isOpened (file : FileAt) : FsM σ Bool := do
  return (← fileAt file).flags &&& lfsFOpened ≠ 0

def hasFlag (file : FileAt) (flag : FileFlag) : FsM σ Bool := do
  return (← fileAt file).has flag

def dropCache (file : FileAt) : FsM σ Unit := setFile file fun f => { f with cache := Calls.lfsCacheDrop f.cache }

-- What every function of the handles does with an error of lfs_file_write and
-- lfs_file_sync that leaves the file in doubt.
def erred (file : FileAt) (err : Int32) : FsM σ Int32 := do
  setFlag file .erred
  return err

-- while (going) { res = turn; if (res < 0) return res; }
def repeatWhile (going : Fs σ → Bool) (turn : FsM σ Int32) : Nat → FsM σ Int32
  | 0 => spin
  | fuel + 1 => do
      if going (← read) then
        let res ← turn
        if res < 0 then
          return res
        repeatWhile going turn fuel
      else
        return 0

-- A cache that holds no part of the inline file is filled from its metadata;
-- a slice that cannot be read leaves the buffer as it is. No caller passes a
-- pcache.
def dirGetreadLoop (dir : Mdir) (hint gmask gtag : UInt32) :
    Nat → UInt32 → List UInt8 → Cache → FsM σ ((Int32 × List UInt8) × Cache)
  | _, _, [], rcache => pure ((0, []), rcache)
  | 0, _, _ :: _, _ => spin
  | fuel + 1, off, byte :: rest, rcache => do
      let data := byte :: rest
      if rcache.block = lfsBlockInline ∧ off < rcache.off + rcache.size ∧ off ≥ rcache.off then
        let diff := min data.length (rcache.size - (off - rcache.off)).toNat
        let ended ← dirGetreadLoop dir hint gmask gtag fuel (off + UInt32.ofNat diff) (data.drop diff) rcache
        return ((ended.1.1, Lib.slice rcache.buffer (off - rcache.off).toNat diff ++ ended.1.2), ended.2)
      let rcache := { rcache with
        block := lfsBlockInline
        off := lfsAligndown off cfg.readSize
        size := lfsMin (lfsAlignup (off + hint) cfg.readSize) cfg.cacheSize }
      let sliced ← lookup cfg below (lfsDirGetslice cfg dir gmask gtag rcache.off rcache.size.toNat)
      if sliced.1 < 0 then
        return ((sliced.1, data), rcache)
      dirGetreadLoop dir hint gmask gtag fuel off data
        { rcache with buffer := fun p => if p < rcache.size.toNat then sliced.2.getD p 0 else rcache.buffer p }

def lfsDirGetread (dir : Mdir) (rcache : Cache) (hint gmask gtag off : UInt32) (data : List UInt8) :
    FsM σ ((Int32 × List UInt8) × Cache) :=
  if off + UInt32.ofNat data.length > cfg.blockSize then
    pure ((lfsErrCorrupt, data), rcache)
  else
    dirGetreadLoop cfg below dir hint gmask gtag (2 * data.length + 2) off data rcache

-- lfs_dir_getread of an inline file, the file's cache in the place of rcache.
def getreadFile (file : FileAt) (hint off : UInt32) (data : List UInt8) : FsM σ (Int32 × List UInt8) := do
  let node ← nodeAt (.file file)
  let ended ← lfsDirGetread cfg below node.m (← fileAt file).cache hint (lfsMktag 0xfff 0x1ff 0)
    (lfsMktag lfsTypeInlinestruct node.id.toUInt32 0) off data
  setFile file fun f => { f with cache := ended.2 }
  return ended.1

-- lfs_bd_read(lfs, NULL, &file->cache, ...)
def readFile (file : FileAt) (hint block off : UInt32) (data : List UInt8) : FsM σ (Int32 × List UInt8) := do
  let ended ← cardCall below (Calls.lfsBdRead cfg none (← fileAt file).cache hint block off data)
  setFile file fun f => { f with cache := ended.2 }
  return ended.1

-- lfs_bd_read(lfs, &file->cache, &lfs->rcache, ...)
def readBack (file : FileAt) (hint block off : UInt32) (data : List UInt8) : FsM σ (Int32 × List UInt8) := do
  let fs ← read
  let ended ← cardCall below (Calls.lfsBdRead cfg (some (fs.files file).cache) fs.rcache hint block off data)
  setRcache ended.2
  return ended.1

-- lfs_ctz_find(lfs, NULL, &file->cache, ...)
def ctzFindFile (file : FileAt) (pos : UInt32) : FsM σ Int32 := do
  let f ← fileAt file
  let found ← lookupWith cfg below f.cache (lfsCtzFind cfg f.ctzHead f.ctzSize pos)
  setFile file fun f => { f with cache := found.2 }
  if found.1.1 ≠ 0 then
    return found.1.1
  setFile file fun f => { f with block := found.1.2.1, off := found.1.2.2 }
  return 0

-- The loops of lfs_ctz_extend: whether to try another block, and the error.
def extendCopy (file : FileAt) (head nblock noff : UInt32) : Nat → UInt32 → FsM σ (Bool × Int32)
  | 0, _ => pure (false, 0)
  | count + 1, i => do
      let got ← lookup cfg below (bdRead (noff - i) head i (zeros 1))
      if got.1 ≠ 0 then
        return (false, got.1)
      let err ← progFile cfg below file nblock i got.2
      if err ≠ 0 then
        return (err = lfsErrCorrupt, err)
      extendCopy file head nblock noff count (i + 1)

def extendHeads (file : FileAt) (nblock : UInt32) : Nat → UInt32 → UInt32 → FsM σ (Bool × Int32)
  | 0, _, _ => pure (false, 0)
  | count + 1, i, nhead => do
      let err ← progFile cfg below file nblock (4 * i) (lfsTole32 nhead)
      if err ≠ 0 then
        return (err = lfsErrCorrupt, err)
      if count = 0 then
        return (false, 0)
      let got ← lookup cfg below (bdRead 4 nhead (4 * i) (lfsTole32 nhead))
      if got.1 ≠ 0 then
        return (false, got.1)
      extendHeads file nblock count (i + 1) (lfsFromle32 got.2)

-- What is written to the new block, and the offset after it.
def extendBlock (file : FileAt) (head size nblock : UInt32) : FsM σ ((Bool × Int32) × UInt32) := do
  if size = 0 then
    return ((false, 0), 0)
  let noff := lfsCtzOff cfg (size - 1) + 1
  if noff ≠ cfg.blockSize then
    return (← extendCopy cfg below file head nblock noff noff.toNat 0, noff)
  let skips := lfsCtz (lfsCtzIndex cfg (size - 1) + 1) + 1
  return (← extendHeads cfg below file nblock skips.toNat 0 head, 4 * skips)

-- lfs_ctz_extend(lfs, &file->cache, &lfs->rcache, file->block, file->pos,
-- &file->block, &file->off)
def lfsCtzExtend (file : FileAt) : Nat → FsM σ Int32
  | 0 => spin
  | fuel + 1 => do
      let (err, nblock) ← below.alloc
      if err ≠ 0 then
        return err
      let err ← bdErase cfg below nblock
      if err ≠ 0 ∧ err ≠ lfsErrCorrupt then
        return err
      if err = lfsErrCorrupt then
        dropCache file
        lfsCtzExtend file fuel
      else
        let f ← fileAt file
        let ended ← extendBlock cfg below file f.block f.pos nblock
        if ended.1.1 then
          dropCache file
          lfsCtzExtend file fuel
        else if ended.1.2 ≠ 0 then
          return ended.1.2
        else
          setFile file fun f => { f with block := nblock, off := ended.2 }
          return 0

def relocateCopy (file : FileAt) (nblock : UInt32) : Nat → UInt32 → FsM σ (Bool × Int32)
  | 0, _ => pure (false, 0)
  | count + 1, i => do
      let f ← fileAt file
      let got ←
        if f.has .inline then getreadFile cfg below file (f.off - i) i (zeros 1)
        else readBack cfg below file (f.off - i) f.block i (zeros 1)
      if got.1 ≠ 0 then
        return (false, got.1)
      let err ← progPcache cfg below nblock i got.2
      if err ≠ 0 then
        return (err = lfsErrCorrupt, err)
      relocateCopy file nblock count (i + 1)

-- The state of lfs->pcache is moved over to the file.
def relocateInto (file : FileAt) (nblock : UInt32) : FsM σ Unit := do
  let fs ← read
  setFile file fun f => { f with
    cache := { fs.pcache with buffer := fun p => if p < cfg.cacheSize.toNat then fs.pcache.buffer p else f.cache.buffer p }
    block := nblock }
  setPcache (lfsCacheZero cfg fs.pcache)
  setFlag file .writing

def relocateLoop (file : FileAt) : Nat → FsM σ Int32
  | 0 => spin
  | fuel + 1 => do
      let (err, nblock) ← below.alloc
      if err ≠ 0 then
        return err
      let err ← bdErase cfg below nblock
      if err ≠ 0 ∧ err ≠ lfsErrCorrupt then
        return err
      let ended ←
        if err = lfsErrCorrupt then pure (true, err)
        else relocateCopy cfg below file nblock (← fileAt file).off.toNat 0
      if ended.1 then
        setPcache (Calls.lfsCacheDrop (← read).pcache)
        relocateLoop file fuel
      else if ended.2 ≠ 0 then
        return ended.2
      else
        relocateInto cfg file nblock
        return 0

def lfsFileRelocate (fuel : Nat) (file : FileAt) : FsM σ Int32 := do
  if ¬ (← isOpened file) then
    return lfsErrNotopen
  relocateLoop cfg below file fuel

def lfsFileOutline (fuel : Nat) (file : FileAt) : FsM σ Int32 := do
  setFile file fun f => { f with off := f.pos }
  allocAck cfg
  let err ← lfsFileRelocate cfg below fuel file
  if err ≠ 0 then
    return err
  clearFlag file .inline
  return 0

-- while (true) lfs_bd_flush, with another block whenever one is bad
def flushOut (file : FileAt) : Nat → FsM σ Int32
  | 0 => spin
  | fuel + 1 => do
      let err ← flushFile cfg below file
      if err = 0 then
        return 0
      if err ≠ lfsErrCorrupt then
        return err
      let err ← lfsFileRelocate cfg below fuel file
      if err ≠ 0 then
        return err
      flushOut file fuel

-- orig shares the buffer of lfs->rcache; one of the two is always dropped.
def flushOrig (file : FileAt) : FsM σ Unit := do
  let fs ← read
  let f := fs.files file
  setOrig fun orig => { orig with
    ctzHead := f.ctzHead
    ctzSize := f.ctzSize
    flags := lfsORdonly ||| lfsFOpened
    pos := f.pos
    cache := fs.rcache }
  setRcache (Calls.lfsCacheDrop fs.rcache)

def flushTurn (readByte : FsM σ (Int32 × List UInt8)) (writeByte : List UInt8 → FsM σ Int32) : FsM σ Int32 := do
  let (res, data) ← readByte
  if res < 0 then
    return res
  let res ← writeByte data
  if res < 0 then
    return res
  let rcache := (← read).rcache
  if rcache.block ≠ lfsBlockNull then
    dropCache .orig
    setRcache (Calls.lfsCacheDrop rcache)
  return 0

-- The writes of a file that is not inline: anything after the branch is
-- copied over, a byte at a time, and what there is written out.
def flushBranch (fuel : Nat) (file : FileAt) (readByte : FsM σ (Int32 × List UInt8)) (writeByte : List UInt8 → FsM σ Int32) : FsM σ Int32 := do
  flushOrig file
  let res ← repeatWhile (fun fs => (fs.files file).pos < (fs.files file).ctzSize) (flushTurn readByte writeByte) fuel
  if res < 0 then
    return res
  flushOut cfg below file fuel

def flushReading (file : FileAt) : FsM σ Unit := do
  if ← hasFlag file .reading then
    if ¬ (← hasFlag file .inline) then
      dropCache file
    clearFlag file .reading

-- The functions that call each other, over the calls they make: these are
-- tied below, every call with less fuel.
def flushBody (fuel : Nat) (file : FileAt) (readByte : FsM σ (Int32 × List UInt8)) (writeByte : List UInt8 → FsM σ Int32) : FsM σ Int32 := do
  if ¬ (← isOpened file) then
    return lfsErrNotopen
  flushReading file
  if ¬ (← hasFlag file .writing) then
    return 0
  let pos := (← fileAt file).pos
  let err ←
    if ← hasFlag file .inline then do
      setFile file fun f => { f with pos := max f.pos f.ctzSize }
      pure 0
    else flushBranch cfg below fuel file readByte writeByte
  if err ≠ 0 then
    return err
  setFile file fun f => { f with
    ctzHead := f.block
    ctzSize := f.pos
    pos := pos }
  clearFlag file .writing
  setFlag file .dirty
  return 0

def readBlock (file : FileAt) : FsM σ Int32 := do
  let f ← fileAt file
  if f.has .reading ∧ f.off ≠ cfg.blockSize then
    return 0
  let err ←
    if ¬ f.has .inline then ctzFindFile cfg below file f.pos
    else do
      setFile file fun f => { f with block := lfsBlockInline, off := f.pos }
      pure 0
  if err ≠ 0 then
    return err
  setFlag file .reading
  return 0

-- The status and what the buffer then holds.
def readLoop (file : FileAt) : Nat → List UInt8 → FsM σ (Int32 × List UInt8)
  | _, [] => pure (0, [])
  | 0, _ :: _ => spin
  | fuel + 1, byte :: rest => do
      let data := byte :: rest
      let err ← readBlock cfg below file
      if err ≠ 0 then
        return (err, data)
      let f ← fileAt file
      let diff := min data.length (cfg.blockSize - f.off).toNat
      let got ←
        if f.has .inline then getreadFile cfg below file cfg.blockSize f.off (data.take diff)
        else readFile cfg below file cfg.blockSize f.block f.off (data.take diff)
      if got.1 ≠ 0 then
        return (got.1, got.2 ++ data.drop diff)
      setFile file fun f => { f with pos := f.pos + UInt32.ofNat diff, off := f.off + UInt32.ofNat diff }
      let ended ← readLoop file fuel (data.drop diff)
      return (ended.1, got.2 ++ ended.2)

-- The mode is not looked at: the second test is the first one again.
def readBody (fuel : Nat) (file : FileAt) (buffer : List UInt8) (flush : FsM σ Int32) : FsM σ (Int32 × List UInt8) := do
  if ¬ (← isOpened file) then
    return (lfsErrNotopen, buffer)
  if ¬ (← isOpened file) then
    return (lfsErrNoattr, buffer)
  let err ← if ← hasFlag file .writing then flush else pure 0
  if err ≠ 0 then
    return (err, buffer)
  let f ← fileAt file
  if f.pos ≥ f.ctzSize then
    return (0, buffer)
  let size := lfsMin (UInt32.ofNat buffer.length) (f.ctzSize - f.pos)
  let ended ← readLoop cfg below file fuel (buffer.take size.toNat)
  if ended.1 ≠ 0 then
    return (ended.1, ended.2 ++ buffer.drop size.toNat)
  return (size.toInt32, ended.2 ++ buffer.drop size.toNat)

end SDCardFs.Littlefs

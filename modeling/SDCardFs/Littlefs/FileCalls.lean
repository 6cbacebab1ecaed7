import SDCardFs.Littlefs.Files

set_option autoImplicit false

namespace SDCardFs.Littlefs

variable {σ : Type} (cfg : Config) (below : Below σ)

-- Where a write goes on: a new block, unless there is room in the one at hand.
def writeBlock (fuel : Nat) (file : FileAt) : FsM σ Int32 := do
  let f ← fileAt file
  if f.has .writing ∧ f.off ≠ cfg.blockSize then
    return 0
  if f.has .inline then
    setFile file fun f => { f with block := lfsBlockInline, off := f.pos }
    setFlag file .writing
    return 0
  if ¬ f.has .writing ∧ f.pos > 0 then
    let err ← ctzFindFile cfg below file (f.pos - 1)
    if err ≠ 0 then
      return ← erred file err
    setFile file fun f => { f with cache := lfsCacheZero cfg f.cache }
  allocAck cfg
  let err ← lfsCtzExtend cfg below file fuel
  if err ≠ 0 then
    return ← erred file err
  setFlag file .writing
  return 0

def writeProg (file : FileAt) (data : List UInt8) : Nat → FsM σ Int32
  | 0 => spin
  | fuel + 1 => do
      let f ← fileAt file
      let err ← progFile cfg below file f.block f.off data
      if err = 0 then
        return 0
      if err ≠ lfsErrCorrupt then
        return ← erred file err
      let err ← lfsFileRelocate cfg below fuel file
      if err ≠ 0 then
        return ← erred file err
      writeProg file data fuel

def writeLoop (file : FileAt) : Nat → List UInt8 → FsM σ Int32
  | _, [] => pure 0
  | 0, _ :: _ => spin
  | fuel + 1, byte :: rest => do
      let data := byte :: rest
      let err ← writeBlock cfg below fuel file
      if err ≠ 0 then
        return err
      let diff := min data.length (cfg.blockSize - (← fileAt file).off).toNat
      let err ← writeProg cfg below file (data.take diff) fuel
      if err ≠ 0 then
        return err
      setFile file fun f => { f with pos := f.pos + UInt32.ofNat diff, off := f.off + UInt32.ofNat diff }
      allocAck cfg
      writeLoop file fuel (data.drop diff)

-- The hole between the end of the file and a position behind it.
def writeFill (fuel : Nat) (file : FileAt) (writeZero : FsM σ Int32) : FsM σ Int32 := do
  let f ← fileAt file
  if ¬ f.has .writing ∧ f.pos > f.ctzSize then
    setFile file fun f => { f with pos := f.ctzSize }
    repeatWhile (fun fs => (fs.files file).pos < f.pos) writeZero fuel
  else
    return 0

def writeOutline (fuel : Nat) (file : FileAt) (nsize : UInt32) : FsM σ Int32 := do
  let f ← fileAt file
  if f.has .inline ∧ max (f.pos + nsize) f.ctzSize > lfsMin 0x3fe (lfsMin cfg.cacheSize (cfg.blockSize / 8)) then
    let err ← lfsFileOutline cfg below fuel file
    if err ≠ 0 then
      return ← erred file err
    return 0
  else
    return 0

def writeFrom (fuel : Nat) (file : FileAt) (data : List UInt8) (writeZero : FsM σ Int32) : FsM σ Int32 := do
  let size := UInt32.ofNat data.length
  setFile file fun f => { f with pos := if f.flags &&& lfsOAppend ≠ 0 ∧ f.pos < f.ctzSize then f.ctzSize else f.pos }
  let fs ← read
  if (fs.files file).pos + size > fs.fileMax then
    return lfsErrFbig
  let res ← writeFill fuel file writeZero
  if res < 0 then
    return res
  let err ← writeOutline cfg below fuel file size
  if err ≠ 0 then
    return err
  let err ← writeLoop cfg below file fuel data
  if err ≠ 0 then
    return err
  clearFlag file .erred
  return size.toInt32

-- The mode is not looked at: the second test is the first one again.
def writeBody (fuel : Nat) (file : FileAt) (data : List UInt8) (flush writeZero : FsM σ Int32) : FsM σ Int32 := do
  if ¬ (← isOpened file) then
    return lfsErrNotopen
  if ¬ (← isOpened file) then
    return lfsErrNoattr
  let err ← if ← hasFlag file .reading then flush else pure 0
  if err ≠ 0 then
    return err
  writeFrom cfg below fuel file data writeZero

mutual

def lfsFileFlush : Nat → FileAt → FsM σ Int32
  | 0, _ => spin
  | fuel + 1, file => flushBody cfg below fuel file (lfsFileRead fuel .orig (zeros 1)) fun data => lfsFileWrite fuel file data

def lfsFileRead : Nat → FileAt → List UInt8 → FsM σ (Int32 × List UInt8)
  | 0, _, _ => spin
  | fuel + 1, file, buffer => readBody cfg below fuel file buffer (lfsFileFlush fuel file)

def lfsFileWrite : Nat → FileAt → List UInt8 → FsM σ Int32
  | 0, _, _ => spin
  | fuel + 1, file, data => writeBody cfg below fuel file data (lfsFileFlush fuel file) (lfsFileWrite fuel file (zeros 1))

end

def syncAttrs (f : File) (id : UInt16) : List Mattr :=
  let attrs := (f.cfg.map FileConfig.attrs).getD []
  let (type, data) :=
    if f.has .inline then (lfsTypeInlinestruct, Lib.slice f.cache.buffer 0 f.ctzSize.toNat)
    else (lfsTypeCtzstruct, lfsTole32 f.ctzHead ++ lfsTole32 f.ctzSize)
  let size := if f.has .inline then f.ctzSize else 8
  [⟨lfsMktag type id.toUInt32 size, .bytes data⟩, ⟨lfsMktag lfsFromUserattrs id.toUInt32 (UInt32.ofNat attrs.length), .attrs attrs⟩]

def lfsFileSync (fuel : Nat) (file : FileAt) : FsM σ Int32 := do
  if ¬ (← isOpened file) then
    return lfsErrNotopen
  if ← hasFlag file .erred then
    return 0
  let err ← lfsFileFlush cfg below fuel file
  if err ≠ 0 then
    return ← erred file err
  let f ← fileAt file
  let node ← nodeAt (.file file)
  if f.has .dirty ∧ ¬ lfsPairIsnull node.m.pair then
    let err ← commitNode below (.file file) (syncAttrs f node.id)
    if err ≠ 0 then
      return ← erred file err
    clearFlag file .dirty
    return 0
  else
    return 0

def lfsFileSeek (fuel : Nat) (file : FileAt) (off whence : Int32) : FsM σ Int32 := do
  if ¬ (← isOpened file) then
    return lfsErrNotopen
  let err ← lfsFileFlush cfg below fuel file
  if err ≠ 0 then
    return err
  let fs ← read
  let f := fs.files file
  let npos :=
    if whence = lfsSeekSet then off.toUInt32
    else if whence = lfsSeekCur then f.pos + off.toUInt32
    else if whence = lfsSeekEnd then f.ctzSize + off.toUInt32
    else f.pos
  if npos > fs.fileMax then
    return lfsErrInval
  setFile file fun f => { f with pos := npos }
  return npos.toInt32

def File.size (f : File) : UInt32 := if f.has .writing then max f.pos f.ctzSize else f.ctzSize

def lfsFileSize (file : FileAt) : FsM σ Int32 := do
  if ¬ (← isOpened file) then
    return lfsErrNotopen
  return (← fileAt file).size.toInt32

def lfsFileTell (file : FileAt) : FsM σ Int32 := do
  if ¬ (← isOpened file) then
    return lfsErrNotopen
  return (← fileAt file).pos.toInt32

def truncateShrink (fuel : Nat) (file : FileAt) (size : UInt32) : FsM σ Int32 := do
  let err ← lfsFileFlush cfg below fuel file
  if err ≠ 0 then
    return err
  let err ← ctzFindFile cfg below file size
  if err ≠ 0 then
    return err
  setFile file fun f => { f with ctzHead := f.block, ctzSize := size }
  setFlag file .dirty
  setFlag file .reading
  return 0

def truncateGrow (fuel : Nat) (file : FileAt) (size oldsize : UInt32) : FsM σ Int32 := do
  let res ← if (← fileAt file).pos ≠ oldsize then lfsFileSeek cfg below fuel file 0 lfsSeekEnd else pure 0
  if res < 0 then
    return res
  repeatWhile (fun fs => (fs.files file).pos < size) (lfsFileWrite cfg below fuel file (zeros 1)) fuel

def truncateTo (fuel : Nat) (file : FileAt) (size oldsize : UInt32) : FsM σ Int32 :=
  if size < oldsize then truncateShrink cfg below fuel file size
  else if size > oldsize then truncateGrow cfg below fuel file size oldsize
  else pure 0

-- The mode is not looked at: the second test is the first one again. Any error
-- but zero ends a truncation to a smaller size, a negative one any other.
def lfsFileTruncate (fuel : Nat) (file : FileAt) (size : UInt32) : FsM σ Int32 := do
  if ¬ (← isOpened file) then
    return lfsErrNotopen
  if ¬ (← isOpened file) then
    return lfsErrNotopen
  if size > lfsFileMax then
    return lfsErrInval
  let f ← fileAt file
  let res ← truncateTo cfg below fuel file size f.size
  if size < f.size ∧ res ≠ 0 ∨ res < 0 then
    return res
  let res ← lfsFileSeek cfg below fuel file f.pos.toInt32 lfsSeekSet
  if res < 0 then
    return res
  return 0

-- lfs_free does nothing.
def lfsFileClose (fuel : Nat) (file : FileAt) : ListM σ Int32 := do
  if ¬ (← keep (isOpened file)) then
    return lfsErrNotopen
  let err ← keep (lfsFileSync cfg below fuel file)
  unlist fuel (.file file)
  setFlags file fun flags => flags &&& ~~~lfsFOpened
  return err

def lfsFsPrepmove (id : UInt16) (pair : Pair) (gstate : Gstate) : Gstate :=
  let tag := gstate.tag &&& ~~~lfsMktag 0x7ff 0x3ff 0
  if id = 0x3ff then ⟨tag, ⟨0, 0⟩⟩ else ⟨tag ||| lfsMktag lfsTypeDelete id.toUInt32 0, pair⟩

def lfsFsPreporphans (orphans : UInt32) (gstate : Gstate) : Gstate :=
  let tag := gstate.tag + orphans
  let gstate := { gstate with tag := tag }
  { gstate with tag := tag &&& ~~~lfsMktag 0x800 0 0 ||| if lfsGstateHasorphans gstate then 0x80000000 else 0 }

def lfsFsDemove : FsM σ Int32 := do
  let fs ← read
  if ¬ lfsGstateHasmove fs.gdisk then
    return 0
  let (err, movedir) ← lookup cfg below (lfsDirFetch cfg (Mdir.ofTail ⟨0, 0⟩) fs.gdisk.pair)
  if err ≠ 0 then
    return err
  let moveid := lfsTagId fs.gdisk.tag
  setGstate (lfsFsPrepmove 0x3ff ⟨0, 0⟩)
  let ended ← below.dirCommit none movedir [⟨lfsMktag lfsTypeDelete moveid 0, .null⟩]
  return ended.1

def lfsFsDeorphan : FsM σ Int32 := do
  if ¬ lfsGstateHasorphans (← read).gstate then
    return 0
  below.deorphan

def lfsFsForceconsistency : FsM σ Int32 := do
  let err ← lfsFsDemove cfg below
  if err ≠ 0 then
    return err
  lfsFsDeorphan below

def openConsistent (flags : UInt32) : FsM σ Int32 :=
  if flags &&& 3 ≠ lfsORdonly then lfsFsForceconsistency cfg below else pure 0

def openFind (fuel : Nat) (file : FileAt) (path : Path) : FsM σ Found := do
  lookup cfg below (lfsDirFind cfg fuel (← nodeAt (.file file)).m path)

-- The entry of the file: its tag, or the error that ends the call. The commit
-- of a new entry reports every error as a name that is too long.
def openEntry (file : FileAt) (flags : UInt32) (tag : Int32) (path : Path) : FsM σ Int32 := do
  let fs ← read
  let node := fs.nodes (.file file)
  let id := node.id.toUInt32
  if tag = lfsErrNoent then
    if flags &&& lfsOCreat = 0 then
      return lfsErrNoent
    let nlen := UInt32.ofNat path.length
    if nlen > fs.nameMax then
      return lfsErrNametoolong
    let err ← commitNode below (.file file) [⟨lfsMktag lfsTypeCreate id 0, .null⟩, ⟨lfsMktag lfsTypeReg id nlen, .bytes path⟩,
      ⟨lfsMktag lfsTypeInlinestruct id 0, .null⟩]
    return if err ≠ 0 then lfsErrNametoolong else (lfsMktag lfsTypeInlinestruct 0 0).toInt32
  else if flags &&& lfsOExcl ≠ 0 then
    return lfsErrExist
  else if lfsTagType3 tag.toUInt32 ≠ lfsTypeReg then
    return lfsErrIsdir
  else if flags &&& lfsOTrunc ≠ 0 then
    setFlag file .dirty
    return (lfsMktag lfsTypeInlinestruct id 0).toInt32
  else
    let (tag, ctz) ← lookup cfg below (lfsDirGet cfg node.m (lfsMktag 0x700 0x3ff 0) (lfsMktag lfsTypeStruct id 8))
    if tag < 0 then
      return tag
    setFile file fun f => { f with ctzHead := lfsFromle32 ctz, ctzSize := lfsFromle32 (ctz.drop 4) }
    return tag

-- What is read goes to the attributes' buffers, which are the caller's.
def fetchAttrs (file : FileAt) : List Attr → FsM σ Int32
  | [] => pure 0
  | attr :: attrs => do
      let fs ← read
      let mode := (fs.files file).flags &&& 3
      let node := fs.nodes (.file file)
      let res ←
        if mode ≠ lfsOWronly then do
          let got ← lookup cfg below (lfsDirGet cfg node.m (lfsMktag 0x7ff 0x3ff 0)
            (lfsMktag (lfsTypeUserattr + attr.type.toUInt32) node.id.toUInt32 attr.size))
          pure got.1
        else pure 0
      if res < 0 ∧ res ≠ lfsErrNoent then
        return res
      if mode ≠ lfsORdonly then
        if attr.size > fs.attrMax then
          return lfsErrNospc
        setFlag file .dirty
        fetchAttrs file attrs
      else
        fetchAttrs file attrs

def openInline (file : FileAt) (tag : UInt32) : FsM σ Int32 := do
  setFile file fun f => { f with
    ctzHead := lfsBlockInline
    ctzSize := lfsTagSize tag
    cache := { f.cache with block := lfsBlockInline, off := 0, size := cfg.cacheSize } }
  setFlag file .inline
  if lfsTagSize tag = 0 then
    return 0
  let node ← nodeAt (.file file)
  let (res, data) ← lookup cfg below (lfsDirGet cfg node.m (lfsMktag 0x700 0x3ff 0)
    (lfsMktag lfsTypeStruct node.id.toUInt32 (lfsMin cfg.cacheSize 0x3fe)))
  if res < 0 then
    return res
  setFile file fun f => { f with
    cache := { f.cache with buffer := fun p => if p < data.length then data.getD p 0 else f.cache.buffer p } }
  return 0

def openBuffer (file : FileAt) (tag : UInt32) : FsM σ Int32 := do
  match (← fileAt file).cfg.bind FileConfig.buffer with
  | none => return lfsErrNomem
  | some buffer =>
      setFile file fun f => { f with cache := lfsCacheZero cfg { f.cache with buffer := buffer } }
      if lfsTagType3 tag = lfsTypeInlinestruct then
        openInline cfg below file tag
      else
        return 0

-- What follows once the handle is in the list.
def openLoad (file : FileAt) (flags : UInt32) (found : Found) : FsM σ Int32 := do
  let tag ← openEntry cfg below file flags found.tag found.path
  if tag < 0 then
    return tag
  let err ← fetchAttrs cfg below file (((← fileAt file).cfg.map FileConfig.attrs).getD [])
  if err ≠ 0 then
    return err
  openBuffer cfg below file tag.toUInt32

-- The part of lfs_file_opencfg whose errors go to cleanup.
def openFound (file : FileAt) (flags : UInt32) (found : Found) : ListM σ Int32 := do
  keep (setNode (.file file) fun node => { node with m := found.dir, id := found.id })
  if found.tag < 0 ∧ ¬ (found.tag = lfsErrNoent ∧ found.id ≠ 0x3ff) then
    return found.tag
  keep (setNode (.file file) fun node => { node with type := lfsTypeReg })
  push (.file file)
  keep (openLoad cfg below file flags found)

def openSetup (file : FileAt) (flags : UInt32) (config : FileConfig) : ListM σ Unit := do
  keep (setFile file fun f => { f with cfg := f.cfg <|> some config, pos := 0, off := 0 })
  setFlags file fun _ => flags ||| lfsFOpened

def openCleanup (fuel : Nat) (file : FileAt) : ListM σ Unit := do
  keep (setFlag file .erred)
  let _ ← lfsFileClose cfg below fuel file

def lfsFileOpencfg (fuel : Nat) (file : FileAt) (path : Path) (flags : UInt32) (config : FileConfig) : ListM σ Int32 := do
  let err ← keep (openConsistent cfg below flags)
  if err ≠ 0 then
    return err
  openSetup file flags config
  let found ← keep (openFind cfg below fuel file path)
  let err ← openFound cfg below file flags found
  if err ≠ 0 then
    openCleanup cfg below fuel file
    return err
  return 0

def defaults : FileConfig := ⟨none, []⟩

def lfsFileOpen (fuel : Nat) (file : FileAt) (path : Path) (flags : UInt32) : ListM σ Int32 :=
  lfsFileOpencfg cfg below fuel file path flags defaults

end SDCardFs.Littlefs

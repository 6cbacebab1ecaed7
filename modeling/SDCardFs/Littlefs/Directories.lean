import SDCardFs.Littlefs.FileCalls

set_option autoImplicit false

namespace SDCardFs.Littlefs

def lfsFromNoop : UInt32 := 0x000
def lfsFromMove : UInt32 := 0x101

def lfsMktagIf (cond : Prop) [Decidable cond] (type id size : UInt32) : UInt32 :=
  if cond then lfsMktag type id size else lfsMktag lfsFromNoop 0 0

variable {σ : Type} (cfg : Config) (below : Below σ)

def lfsDirAlloc (dir : Mdir) : FsM σ (Int32 × Mdir) := do
  let (err, second) ← below.alloc
  if err ≠ 0 then
    return (err, dir)
  let (err, first) ← below.alloc
  if err ≠ 0 then
    return (err, { dir with pair := ⟨dir.pair.first, second⟩ })
  let pair : Pair := ⟨first, second⟩
  let (err, bytes) ← lookup cfg below (bdRead 4 first 0 (lfsTole32 0))
  let rev := lfsFromle32 bytes
  if err ≠ 0 ∧ err ≠ lfsErrCorrupt then
    return (err, { dir with pair := pair, rev := rev })
  return (0, ⟨pair, rev + (rev &&& 1), 4, 0xffffffff, 0, false, false, ⟨lfsBlockNull, lfsBlockNull⟩⟩)

def pairBytes (pair : Pair) : List UInt8 := lfsTole32 pair.first ++ lfsTole32 pair.second

def tailAttr (split : Bool) (pair : Pair) : Mattr :=
  ⟨lfsMktag (lfsTypeTail + if split then 1 else 0) 0x3ff 8, .bytes (pairBytes pair)⟩

def lfsDirDrop (dir tail : Mdir) : FsM σ (Int32 × Mdir) := do
  let (err, gdelta) ← lookup cfg below (lfsDirGetgstate cfg tail (← read).gdelta)
  setGdelta gdelta
  if err ≠ 0 then
    return (err, dir)
  below.dirCommit none dir [tailAttr tail.split tail.tail]

def findPred : Nat → Mdir → FsM σ (Int32 × Mdir)
  | 0, _ => spin
  | fuel + 1, pred => do
      if ¬ pred.split then
        return (0, pred)
      let (err, pred) ← lookup cfg below (lfsDirFetch cfg pred pred.tail)
      if err ≠ 0 then
        return (err, pred)
      findPred fuel pred

-- current block end of list? cwd is in the list while the tails are updated.
def mkdirHooked (pred dir : Mdir) : ListM σ Int32 := do
  if ¬ (← keep (nodeAt .hook)).m.split then
    return 0
  keep (setGstate (lfsFsPreporphans 1))
  keep (setNode .hook fun cwd => { cwd with type := 0, id := 0 })
  setMlist .hook
  let (err, _) ← keep (below.dirCommit none pred [tailAttr false dir.pair])
  if err ≠ 0 then
    unhook .hook
    return err
  unhook .hook
  keep (setGstate (lfsFsPreporphans (0 - 1)))
  return 0

-- The new directory and the end of the list of pairs before it.
def mkdirBuild (fuel : Nat) : FsM σ (Int32 × Mdir × Mdir) := do
  allocAck cfg
  let (err, dir) ← lfsDirAlloc cfg below (Mdir.ofTail ⟨0, 0⟩)
  let cwd := (← nodeAt .hook).m
  if err ≠ 0 then
    return (err, cwd, dir)
  let (err, pred) ← findPred cfg below fuel cwd
  if err ≠ 0 then
    return (err, pred, dir)
  let (err, dir) ← below.dirCommit none dir [tailAttr false pred.tail]
  return (err, pred, dir)

def mkdirFind (fuel : Nat) (path : Path) : FsM σ Found := do
  let found ← lookup cfg below (lfsDirFind cfg fuel (← nodeAt .hook).m path)
  setNode .hook fun cwd => { cwd with m := found.dir }
  return found

def mkdirInsert (found : Found) (dir : Mdir) : FsM σ Int32 := do
  let id := found.id.toUInt32
  commitNode below .hook [⟨lfsMktag lfsTypeCreate id 0, .null⟩,
    ⟨lfsMktag lfsTypeDir id (UInt32.ofNat found.path.length), .bytes found.path⟩,
    ⟨lfsMktag lfsTypeDirstruct id 8, .bytes (pairBytes dir.pair)⟩,
    ⟨lfsMktagIf (¬ (← nodeAt .hook).m.split) lfsTypeSofttail 0x3ff 8, .bytes (pairBytes dir.pair)⟩]

def lfsMkdir (fuel : Nat) (path : Path) : ListM σ Int32 := do
  let err ← keep (lfsFsForceconsistency cfg below)
  if err ≠ 0 then
    return err
  hookNext .hook
  let found ← keep (mkdirFind cfg below fuel path)
  if ¬ (found.tag = lfsErrNoent ∧ found.id ≠ 0x3ff) then
    return if found.tag < 0 then found.tag else lfsErrExist
  if UInt32.ofNat found.path.length > (← get).nameMax then
    return lfsErrNametoolong
  let (err, pred, dir) ← keep (mkdirBuild cfg below fuel)
  if err ≠ 0 then
    return err
  let err ← mkdirHooked below pred dir
  if err ≠ 0 then
    return err
  keep (mkdirInsert below found dir)

-- A directory that is to go has to be empty; its mdir goes to the local node.
def fetchEmpty (cwd : Mdir) (id : UInt32) : FsM σ Int32 := do
  let (res, pair) ← lookup cfg below (lfsDirGet cfg cwd (lfsMktag 0x700 0x3ff 0) (lfsMktag lfsTypeStruct id 8))
  if res < 0 then
    return res
  let (err, dir) ← lookup cfg below (lfsDirFetch cfg (← nodeAt .hook).m (lfsPairFromle32 pair))
  setNode .hook fun node => { node with m := dir }
  if err ≠ 0 then
    return err
  if dir.count > 0 ∨ dir.split then
    return lfsErrNotempty
  setGstate (lfsFsPreporphans 1)
  setNode .hook fun node => { node with type := 0, id := 0 }
  return 0

def dropHooked : FsM σ Int32 := do
  setGstate (lfsFsPreporphans (0 - 1))
  let dir := (← nodeAt .hook).m
  let (err, pred) ← lookup cfg below (lfsFsPred cfg dir.pair (Mdir.ofTail ⟨0, 0⟩))
  if err ≠ 0 then
    return err
  let (err, _) ← lfsDirDrop cfg below pred dir
  return err

def removeFind (fuel : Nat) (path : Path) : FsM σ (Int32 × Found) := do
  let found ← lookup cfg below (lfsDirFind cfg fuel (Mdir.ofTail ⟨0, 0⟩) path)
  let err := if found.tag < 0 then found.tag else if lfsTagId found.tag.toUInt32 = 0x3ff then lfsErrInval else 0
  return (err, found)

def removeEntry (found : Found) : ListM σ Int32 := do
  let tag := found.tag.toUInt32
  let (err, _) ← keep (below.dirCommit none found.dir [⟨lfsMktag lfsTypeDelete (lfsTagId tag) 0, .null⟩])
  unhook .hook
  if err ≠ 0 then
    return err
  if lfsTagType3 tag = lfsTypeDir then
    keep (dropHooked cfg below)
  else
    return 0

def lfsRemove (fuel : Nat) (path : Path) : ListM σ Int32 := do
  let err ← keep (lfsFsForceconsistency cfg below)
  if err ≠ 0 then
    return err
  let (err, found) ← keep (removeFind cfg below fuel path)
  if err ≠ 0 then
    return err
  hookNext .hook
  if lfsTagType3 found.tag.toUInt32 = lfsTypeDir then
    let err ← keep (fetchEmpty cfg below found.dir (lfsTagId found.tag.toUInt32))
    if err ≠ 0 then
      return err
    setMlist .hook
    removeEntry cfg below found
  else
    removeEntry cfg below found

-- The two commits of lfs_rename. oldcwd is a local mdir, so the first one
-- leaves it as it is.
def renameCommits (old new : Found) (samepair : Bool) (newoldid : UInt32) : FsM σ Int32 := do
  let oldtag := old.tag.toUInt32
  let newid := new.id.toUInt32
  if ¬ samepair then
    setGstate (lfsFsPrepmove newoldid.toUInt16 old.dir.pair)
  let (err, _) ← below.dirCommit none new.dir [
    ⟨lfsMktagIf (new.tag ≠ lfsErrNoent) lfsTypeDelete newid 0, .null⟩,
    ⟨lfsMktag lfsTypeCreate newid 0, .null⟩,
    ⟨lfsMktag (lfsTagType3 oldtag) newid (UInt32.ofNat new.path.length), .bytes new.path⟩,
    ⟨lfsMktag lfsFromMove newid (lfsTagId oldtag), .mdir old.dir⟩,
    ⟨lfsMktagIf samepair lfsTypeDelete newoldid 0, .null⟩]
  if err ≠ 0 then
    return err
  if ¬ samepair ∧ lfsGstateHasmove (← read).gstate then
    setGstate (lfsFsPrepmove 0x3ff ⟨0, 0⟩)
    let (err, _) ← below.dirCommit none old.dir [⟨lfsMktag lfsTypeDelete (lfsTagId oldtag) 0, .null⟩]
    return err
  else
    return 0

def renameMove (old new : Found) (samepair : Bool) (newoldid : UInt32) : ListM σ Int32 := do
  let err ← keep (renameCommits below old new samepair newoldid)
  unhook .hook
  if err ≠ 0 then
    return err
  if new.tag ≠ lfsErrNoent ∧ lfsTagType3 new.tag.toUInt32 = lfsTypeDir then
    keep (dropHooked cfg below)
  else
    return 0

def renameFind (fuel : Nat) (path : Path) : FsM σ (Int32 × Found) := do
  let new ← lookup cfg below (lfsDirFind cfg fuel (Mdir.ofTail ⟨0, 0⟩) path)
  if (new.tag < 0 ∨ lfsTagId new.tag.toUInt32 = 0x3ff) ∧ ¬ (new.tag = lfsErrNoent ∧ new.id ≠ 0x3ff) then
    return (if new.tag < 0 then new.tag else lfsErrInval, new)
  return (0, new)

def lfsRename (fuel : Nat) (oldpath newpath : Path) : ListM σ Int32 := do
  let err ← keep (lfsFsForceconsistency cfg below)
  if err ≠ 0 then
    return err
  let (err, old) ← keep (removeFind cfg below fuel oldpath)
  if err ≠ 0 then
    return err
  let (err, new) ← keep (renameFind cfg below fuel newpath)
  if err ≠ 0 then
    return err
  let prevtag := new.tag.toUInt32
  let samepair := lfsPairSame old.dir.pair new.dir.pair
  let newid := new.id.toUInt32
  let oldid := lfsTagId old.tag.toUInt32
  hookNext .hook
  if new.tag = lfsErrNoent then
    if UInt32.ofNat new.path.length > (← get).nameMax then
      return lfsErrNametoolong
    renameMove cfg below old new samepair (if samepair ∧ newid ≤ oldid then oldid + 1 else oldid)
  else if lfsTagType3 prevtag ≠ lfsTagType3 old.tag.toUInt32 then
    return lfsErrIsdir
  else if samepair ∧ newid = oldid then
    return 0
  else if lfsTagType3 prevtag = lfsTypeDir then
    let err ← keep (fetchEmpty cfg below new.dir newid)
    if err ≠ 0 then
      return err
    setMlist .hook
    renameMove cfg below old new samepair oldid
  else
    renameMove cfg below old new samepair oldid

def dirFetch (fuel : Nat) (dir : Nat) (path : Path) : FsM σ Int32 := do
  let found ← lookup cfg below (lfsDirFind cfg fuel (← nodeAt (.dir dir)).m path)
  setNode (.dir dir) fun node => { node with m := found.dir }
  if found.tag < 0 then
    return found.tag
  let tag := found.tag.toUInt32
  if lfsTagType3 tag ≠ lfsTypeDir then
    return lfsErrNotdir
  let root := (← read).root
  let (res, pair) ←
    if lfsTagId tag = 0x3ff then pure (0, pairBytes root)
    else lookup cfg below (lfsDirGet cfg found.dir (lfsMktag 0x700 0x3ff 0) (lfsMktag lfsTypeStruct (lfsTagId tag) 8))
  if res < 0 then
    return res
  let (err, m) ← lookup cfg below (lfsDirFetch cfg found.dir (lfsPairFromle32 pair))
  setNode (.dir dir) fun node => { node with m := m }
  if err ≠ 0 then
    return err
  setDir dir fun _ => ⟨0, m.pair⟩
  setNode (.dir dir) fun node => { node with id := 0, type := lfsTypeDir }
  return 0

def lfsDirOpen (fuel : Nat) (dir : Nat) (path : Path) : ListM σ Int32 := do
  let err ← keep (dirFetch cfg below fuel dir path)
  if err ≠ 0 then
    return err
  push (.dir dir)
  return 0

def lfsDirClose (fuel : Nat) (dir : Nat) : ListM σ Int32 := do
  unlist fuel (.dir dir)
  return 0

-- dir->m, once it has been read up, becomes its tail.
def dirNext (dir : Nat) : FsM σ Int32 := do
  let m := (← nodeAt (.dir dir)).m
  let (err, m) ← lookup cfg below (lfsDirFetch cfg m m.tail)
  setNode (.dir dir) fun node => { node with m := m }
  if err ≠ 0 then
    return err
  setNode (.dir dir) fun node => { node with id := 0 }
  return 0

def dirReadLoop (dir : Nat) : Nat → Info → FsM σ (Int32 × Info)
  | 0, _ => spin
  | fuel + 1, info => do
      let node ← nodeAt (.dir dir)
      if node.id = node.m.count ∧ ¬ node.m.split then
        return (0, info)
      let err ← if node.id = node.m.count then dirNext cfg below dir else pure 0
      if err ≠ 0 then
        return (err, info)
      let node ← nodeAt (.dir dir)
      let (err, info) ← lookup cfg below (lfsDirGetinfo cfg node.m node.id info)
      if err ≠ 0 ∧ err ≠ lfsErrNoent then
        return (err, info)
      setNode (.dir dir) fun node => { node with id := node.id + 1 }
      if err ≠ lfsErrNoent then
        setDir dir fun d => { d with pos := d.pos + 1 }
        return (1, info)
      dirReadLoop dir fuel info

def lfsDirRead (fuel : Nat) (dir : Nat) : FsM σ (Int32 × Info) := do
  let pos := (← dirAt dir).pos
  if pos = 0 ∨ pos = 1 then
    setDir dir fun d => { d with pos := d.pos + 1 }
    return (1, ⟨lfsTypeDir, 0, if pos = 0 then [dot] else [dot, dot]⟩)
  dirReadLoop cfg below dir fuel ⟨0, 0, []⟩

def lfsDirRewind (dir : Nat) : FsM σ Int32 := do
  let (err, m) ← lookup cfg below (lfsDirFetch cfg (← nodeAt (.dir dir)).m (← dirAt dir).head)
  setNode (.dir dir) fun node => { node with m := m }
  if err ≠ 0 then
    return err
  setNode (.dir dir) fun node => { node with id := 0 }
  setDir dir fun d => { d with pos := 0 }
  return 0

def dirSeekLoop (dir : Nat) : Nat → UInt32 → FsM σ Int32
  | 0, _ => spin
  | fuel + 1, off => do
      if off = 0 then
        return 0
      let node ← nodeAt (.dir dir)
      let diff := lfsMin (node.m.count.toUInt32 - node.id.toUInt32) off
      let id := node.id + diff.toUInt16
      setNode (.dir dir) fun node => { node with id := id }
      setDir dir fun d => { d with pos := d.pos + diff }
      if id = node.m.count ∧ ¬ node.m.split then
        return lfsErrInval
      let err ← if id = node.m.count then dirNext cfg below dir else pure 0
      if err ≠ 0 then
        return err
      dirSeekLoop dir fuel (off - diff)

def lfsDirSeek (fuel : Nat) (dir : Nat) (off : UInt32) : FsM σ Int32 := do
  let err ← lfsDirRewind cfg below dir
  if err ≠ 0 then
    return err
  let pos := lfsMin 2 off
  let fs ← read
  setDir dir fun d => { d with pos := pos }
  let id : UInt16 := if off - pos > 0 ∧ lfsPairSame (fs.dirs dir).head fs.root then 1 else 0
  setNode (.dir dir) fun node => { node with id := id }
  dirSeekLoop cfg below dir fuel (off - pos)

def lfsStat (fuel : Nat) (path : Path) (info : Info) : FsM σ (Int32 × Info) := do
  let found ← lookup cfg below (lfsDirFind cfg fuel (Mdir.ofTail ⟨0, 0⟩) path)
  if found.tag < 0 then
    return (found.tag, info)
  lookup cfg below (lfsDirGetinfo cfg found.dir (lfsTagId found.tag.toUInt32).toUInt16 info)

end SDCardFs.Littlefs

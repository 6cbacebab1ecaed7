import SDCardFs.Littlefs.Access
import SDCardFs.Littlefs.Words

set_option autoImplicit false

namespace SDCardFs.Littlefs

-- cfg->sync is lfs_sd_sync, and SDCard::sync returns 0.
def lfsSdSync : Int32 := 0

def Calls.lfsBdSync (cfg : Config) (pcache rcache : Cache) (validate : Bool) : DevM (Int32 × Cache × Cache) := do
  let (err, pcache, rcache) ← lfsBdFlush cfg pcache (lfsCacheDrop rcache) validate
  if err ≠ 0 then
    return (err, pcache, rcache)
  return (lfsSdSync, pcache, rcache)

-- lfs->rcache and lfs->pcache
structure Caches where
  rcache : Cache
  pcache : Cache

abbrev BdM : Type → Type := StateT Caches DevM

section
variable (cfg : Config)

def cacheRead (hint block off : UInt32) (data : List UInt8) : BdM (Int32 × List UInt8) := fun caches => do
  let (got, rcache) ← Calls.lfsBdRead cfg none caches.rcache hint block off data
  return (got, { caches with rcache := rcache })

def cacheProg (block off : UInt32) (data : List UInt8) : BdM Int32 := fun caches => do
  let (err, pcache, rcache) ← Calls.lfsBdProg cfg caches.pcache caches.rcache false block off data
  return (err, ⟨rcache, pcache⟩)

def cacheSync : BdM Int32 := fun caches => do
  let (err, pcache, rcache) ← Calls.lfsBdSync cfg caches.pcache caches.rcache false
  return (err, ⟨rcache, pcache⟩)

-- What reads through the read cache alone.
def cacheReads {α : Type} (lfs : LfsBase) (call : BaseM α) : BdM α := fun caches => do
  let (result, rcache) ← (call lfs).through (Calls.readServer cfg) caches.rcache
  return (result, { caches with rcache := rcache })

def unending {α : Type} : BdM α := fun _ => .stuck

-- struct lfs_commit, with its end called limit
structure Commit where
  block : UInt32
  off : UInt32
  ptag : UInt32
  crc : UInt32
  begin : UInt32
  limit : UInt32

def lfsDirCommitprog (commit : Commit) (buffer : List UInt8) : BdM (Int32 × Commit) := do
  let err ← cacheProg cfg commit.block commit.off buffer
  if err ≠ 0 then
    return (err, commit)
  return (0, { commit with crc := lfsCrc commit.crc buffer, off := commit.off + UInt32.ofNat buffer.length })

structure UserAttr where
  type : UInt8
  size : UInt32
  buffer : List UInt8

-- What the buffer of an entry points to.
inductive TagBuffer where
  | bytes (data : List UInt8)
  | mdir (dir : Mdir)
  | attrs (attrs : List UserAttr)
  | disk (block off : UInt32)

def TagBuffer.memory (size : Nat) : TagBuffer → List UInt8
  | .bytes data => Lib.slice (fun p => data.getD p 0) 0 size
  | _ => zeros size

def TagBuffer.place : TagBuffer → UInt32 × UInt32
  | .disk block off => (block, off)
  | _ => (lfsBlockNull, 0)

def commitFromDisk (block off : UInt32) : Nat → UInt32 → Commit → BdM (Int32 × Commit)
  | 0, _, commit => pure (0, commit)
  | count + 1, i, commit => do
      let (err, dat) ← cacheRead cfg (UInt32.ofNat (count + 1)) block (off + i) [0]
      if err ≠ 0 then
        return (err, commit)
      let (err, commit) ← lfsDirCommitprog cfg commit dat
      if err ≠ 0 then
        return (err, commit)
      commitFromDisk block off count (i + 1) commit

-- What is behind the tag of an entry.
def commitData (commit : Commit) (tag : UInt32) (buffer : TagBuffer) (size : Nat) : BdM (Int32 × Commit) :=
  if tag &&& 0x80000000 = 0 then lfsDirCommitprog cfg commit (buffer.memory size)
  else commitFromDisk cfg buffer.place.1 buffer.place.2 size 0 commit

def lfsDirCommitattr (commit : Commit) (tag : UInt32) (buffer : TagBuffer) : BdM (Int32 × Commit) := do
  let dsize := lfsTagDsize tag
  if commit.off + dsize > commit.limit then
    return (lfsErrNospc, commit)
  let (err, commit) ← lfsDirCommitprog cfg commit (lfsTobe32 ((tag &&& 0x7fffffff) ^^^ commit.ptag))
  if err ≠ 0 then
    return (err, commit)
  let (err, commit) ← commitData cfg commit tag buffer (dsize - 4).toNat
  if err ≠ 0 then
    return (err, commit)
  return (0, { commit with ptag := tag &&& 0x7fffffff })

-- The CRC tags up to the end of the program unit. A turn that gets no further
-- is one of a loop without end.
def commitCrcTags (last : UInt32) : Nat → Commit → BdM (Int32 × Commit)
  | 0, _ => unending
  | fuel + 1, commit => do
      if commit.off < last then
        let off := commit.off + 4
        let noff := lfsMin (last - off) 0x3fe + off
        let noff := if noff < last then lfsMin noff (last - 8) else noff
        let (err, bytes) ← cacheRead cfg 4 commit.block noff (lfsTole32 0xffffffff)
        if err ≠ 0 ∧ err ≠ lfsErrCorrupt then
          return (err, commit)
        let reset := (~~~ lfsFrombe32 bytes) >>> 31
        let tag := lfsMktag (lfsTypeCrc + reset) 0x3ff (noff - off)
        let crc := lfsCrc commit.crc (lfsTobe32 (tag ^^^ commit.ptag))
        let err ← cacheProg cfg commit.block commit.off (lfsTobe32 (tag ^^^ commit.ptag) ++ lfsTole32 crc)
        if err ≠ 0 then
          return (err, { commit with crc := crc })
        commitCrcTags last fuel
          { commit with off := commit.off + 4 + lfsTagSize tag, ptag := tag ^^^ (reset <<< 31), crc := 0xffffffff }
      else
        return (0, commit)

def checkCrc (block off1 crc1 noff : UInt32) : Nat → UInt32 → UInt32 → BdM (Int32 × UInt32)
  | 0, _, crc => pure (0, crc)
  | count + 1, i, crc => do
      if i = off1 ∧ crc ≠ crc1 then
        return (lfsErrCorrupt, crc)
      let (err, dat) ← cacheRead cfg (noff + 4 - i) block i [0]
      if err ≠ 0 then
        return (err, crc)
      checkCrc block off1 crc1 noff count (i + 1) (lfsCrc crc dat)

def checkCommits (block off1 crc1 last : UInt32) : Nat → UInt32 → UInt32 → BdM Int32
  | 0, _, _ => unending
  | fuel + 1, off, noff => do
      if off < last then
        let (err, crc) ← checkCrc cfg block off1 crc1 noff ((noff + 4).toNat - off.toNat) off 0xffffffff
        if err ≠ 0 then
          return err
        if crc ≠ 0 then
          return lfsErrCorrupt
        let off := lfsMin (last - noff) 0x3fe + noff
        let off := if off < last then lfsMin off (last - 8) else off
        checkCommits block off1 crc1 last fuel off (off + 4)
      else
        return 0

def lfsDirCommitcrc (commit : Commit) : BdM (Int32 × Commit) := do
  let off1 := commit.off
  let crc1 := commit.crc
  let last := lfsAlignup (off1 + 8) cfg.progSize
  let (err, commit) ← commitCrcTags cfg last (cfg.blockSize.toNat + 1) commit
  if err ≠ 0 then
    return (err, commit)
  let err ← cacheSync cfg
  if err ≠ 0 then
    return (err, commit)
  let err ← checkCommits cfg commit.block off1 crc1 last (cfg.blockSize.toNat + 1) commit.begin (off1 + 4)
  return (err, commit)

end

end SDCardFs.Littlefs

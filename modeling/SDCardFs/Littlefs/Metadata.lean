import SDCardFs.Littlefs.BlockDevice

set_option autoImplicit false

namespace SDCardFs.Littlefs

structure DiskOff where
  block : UInt32
  off : UInt32

abbrev TagMatch : Type := UInt32 → DiskOff → BaseM Int32

def lfsBdCmpLoop (hint block off : UInt32) : List UInt8 → UInt32 → BaseM Int32
  | [], _ => pure lfsCmpEq
  | byte :: rest, i => do
      let (err, data) ← bdRead (hint - i) block (off + i) (zeros 1)
      if err ≠ 0 then
        return err
      let dat := data.getD 0 0
      if dat ≠ byte then
        return if dat < byte then lfsCmpLt else lfsCmpGt
      lfsBdCmpLoop hint block off rest (i + 1)

def lfsBdCmp (hint block off : UInt32) (buffer : List UInt8) : BaseM Int32 := lfsBdCmpLoop hint block off buffer 0

-- The locals of the scan of one block, with besttag and dir of the call around it.
structure FetchState where
  off : UInt32
  ptag : UInt32
  tempcount : UInt16
  temptail : Pair
  tempsplit : Bool
  tempbesttag : UInt32
  crc : UInt32
  besttag : UInt32
  dir : Mdir

-- continue, break and return of the scan.
inductive FetchTurn where
  | next (state : FetchState)
  | stop (besttag : UInt32) (dir : Mdir)
  | fail (err : Int32) (dir : Mdir)

def FetchState.stop (state : FetchState) (erased : Bool) : FetchTurn := .stop state.besttag { state.dir with erased := erased }

-- What every failed read of the scan does: corruption ends the block, any
-- other error the call.
def FetchState.failed (state : FetchState) (err : Int32) : FetchTurn :=
  if err = lfsErrCorrupt then state.stop false else .fail err state.dir

def fetchCrc (cfg : Config) (state : FetchState) (off tag crc : UInt32) : BaseM FetchTurn := do
  let (err, bytes) ← bdRead cfg.blockSize state.dir.pair.first (off + 4) (zeros 4)
  if err ≠ 0 then
    return state.failed err
  if crc ≠ lfsFromle32 bytes then
    return state.stop false
  let ptag := tag ^^^ ((lfsTagChunk tag &&& 1) <<< (31 : UInt32))
  stir crc
  return .next { state with
    off := off
    ptag := ptag
    crc := 0xffffffff
    besttag := state.tempbesttag
    dir := { state.dir with
      off := off + lfsTagDsize tag
      etag := ptag
      count := state.tempcount
      tail := state.temptail
      split := state.tempsplit } }

-- for (j = sizeof(tag); j < dsize; j++): corruption breaks out of this loop
-- only, leaving erased false and the CRC short.
def fetchEntryCrc (cfg : Config) (block off : UInt32) : Nat → UInt32 → UInt32 → BaseM (Int32 × UInt32)
  | 0, _, crc => pure (0, crc)
  | count + 1, j, crc => do
      let (err, bytes) ← bdRead cfg.blockSize block (off + j) (zeros 1)
      if err ≠ 0 then
        return (err, crc)
      fetchEntryCrc cfg block off count (j + 1) (lfsCrc crc bytes)

def fetchSplice (state : FetchState) (tag : UInt32) : FetchState :=
  { state with
    tempcount := state.tempcount + (lfsTagSplice tag).toUInt16
    tempbesttag :=
      if tag = lfsMktag lfsTypeDelete 0 0 ||| (lfsMktag 0 0x3ff 0 &&& state.tempbesttag) then
        state.tempbesttag ||| 0x80000000
      else if state.tempbesttag ≠ 0xffffffff ∧ lfsTagId tag ≤ lfsTagId state.tempbesttag then
        state.tempbesttag + lfsMktag 0 (lfsTagSplice tag) 0
      else
        state.tempbesttag }

def fetchName (state : FetchState) (tag : UInt32) : FetchState :=
  if lfsTagId tag ≥ state.tempcount.toUInt32 then { state with tempcount := (lfsTagId tag + 1).toUInt16 } else state

-- An error of this read other than corruption is ignored.
def fetchTail (cfg : Config) (state : FetchState) (off tag : UInt32) : BaseM (Bool × FetchState) := do
  let state := { state with tempsplit := lfsTagChunk tag &&& 1 ≠ 0 }
  let (err, bytes) ← bdRead cfg.blockSize state.dir.pair.first (off + 4)
    (lfsTole32 state.temptail.first ++ lfsTole32 state.temptail.second)
  if err = lfsErrCorrupt then
    return (false, state)
  return (true, { state with temptail := lfsPairFromle32 bytes })

def fetchMatched (state : FetchState) (tag : UInt32) (res : Int32) : FetchState :=
  if res = lfsCmpEq then
    { state with tempbesttag := tag }
  else if lfsMktag 0x7ff 0x3ff 0 &&& tag = lfsMktag 0x7ff 0x3ff 0 &&& state.tempbesttag then
    { state with tempbesttag := 0xffffffff }
  else if res = lfsCmpGt ∧ lfsTagId tag ≤ lfsTagId state.tempbesttag then
    { state with tempbesttag := tag ||| 0x80000000 }
  else
    state

def fetchMatch (fmask ftag : UInt32) (cb : TagMatch) (state : FetchState) (off tag : UInt32) : BaseM FetchTurn := do
  if fmask &&& tag ≠ fmask &&& ftag then
    return .next state
  let res ← cb tag ⟨state.dir.pair.first, off + 4⟩
  if res < 0 then
    return state.failed res
  return .next (fetchMatched state tag res)

def fetchEntry (cfg : Config) (fmask ftag : UInt32) (cb : TagMatch) (state : FetchState) (off tag crc : UInt32) : BaseM FetchTurn := do
  let (err, crc) ← fetchEntryCrc cfg state.dir.pair.first off (lfsTagDsize tag - 4).toNat 4 crc
  if err ≠ 0 ∧ err ≠ lfsErrCorrupt then
    return .fail err state.dir
  let state := { state with
    off := off
    ptag := tag
    crc := crc
    dir := if err = lfsErrCorrupt then { state.dir with erased := false } else state.dir }
  if lfsTagType1 tag = lfsTypeName then
    fetchMatch fmask ftag cb (fetchName state tag) off tag
  else if lfsTagType1 tag = lfsTypeSplice then
    fetchMatch fmask ftag cb (fetchSplice state tag) off tag
  else if lfsTagType1 tag = lfsTypeTail then
    let (going, state) ← fetchTail cfg state off tag
    if going then
      fetchMatch fmask ftag cb state off tag
    else
      return state.stop false
  else
    fetchMatch fmask ftag cb state off tag

def fetchTag (cfg : Config) (fmask ftag : UInt32) (cb : TagMatch) (state : FetchState) : BaseM FetchTurn := do
  let off := state.off + lfsTagDsize state.ptag
  let (err, bytes) ← bdRead cfg.blockSize state.dir.pair.first off (zeros 4)
  if err ≠ 0 then
    return state.failed err
  let crc := lfsCrc state.crc bytes
  let tag := lfsFrombe32 bytes ^^^ state.ptag
  if ¬ lfsTagIsvalid tag then
    return state.stop (lfsTagType1 state.ptag = lfsTypeCrc ∧ state.dir.off % cfg.progSize = 0)
  if off + lfsTagDsize tag > cfg.blockSize then
    return state.stop false
  if lfsTagType1 tag = lfsTypeCrc then
    fetchCrc cfg state off tag crc
  else
    fetchEntry cfg fmask ftag cb state off tag crc

-- Every turn moves off on by a tag, and off stays inside the block: fewer
-- turns than the block has bytes, sums of 32 bits not wrapping.
def fetchScan (cfg : Config) (fmask ftag : UInt32) (cb : TagMatch) : Nat → FetchState → BaseM (Int32 × UInt32 × Mdir)
  | 0, _ => endless
  | fuel + 1, state => do
      match ← fetchTag cfg fmask ftag cb state with
      | .next state => fetchScan cfg fmask ftag cb fuel state
      | .stop besttag dir => return (0, besttag, dir)
      | .fail err dir => return (err, 0, dir)

-- The result, dir as it then is, and what was written through id, if anything.
structure Fetched where
  tag : Int32
  dir : Mdir
  id : Option UInt32

def fetchFound (gdisk : Gstate) (besttag : UInt32) (dir : Mdir) : Fetched :=
  let besttag : UInt32 :=
    if lfsGstateHasmovehere gdisk dir.pair then
      if lfsTagId gdisk.tag = lfsTagId besttag then besttag ||| 0x80000000
      else if besttag ≠ 0xffffffff ∧ lfsTagId gdisk.tag < lfsTagId besttag then besttag - lfsMktag 0 1 0
      else besttag
    else besttag
  let tag : Int32 :=
    if lfsTagIsvalid besttag then besttag.toInt32
    else if lfsTagId besttag < dir.count.toUInt32 then lfsErrNoent
    else 0
  ⟨tag, dir, some (lfsMin (lfsTagId besttag) dir.count.toUInt32)⟩

def fetchBlocks (cfg : Config) (fmask ftag : UInt32) (cb : TagMatch) (otherRev : UInt32) : Nat → UInt32 → Mdir → BaseM Fetched
  | 0, _, dir => pure ⟨lfsErrCorrupt, dir, none⟩
  | attempts + 1, besttag, dir => do
      let (err, besttag, dir) ← fetchScan cfg fmask ftag cb cfg.blockSize.toNat
        { off := 0
          ptag := 0xffffffff
          tempcount := 0
          temptail := ⟨lfsBlockNull, lfsBlockNull⟩
          tempsplit := false
          tempbesttag := besttag
          crc := lfsCrc 0xffffffff (lfsTole32 dir.rev)
          besttag := besttag
          dir := dir }
      if err ≠ 0 then
        return ⟨err, dir, none⟩
      if dir.off > 0 then
        let lfs ← read
        return fetchFound lfs.gdisk besttag dir
      fetchBlocks cfg fmask ftag cb otherRev attempts besttag { dir with pair := ⟨dir.pair.second, dir.pair.first⟩, rev := otherRev }

def lfsDirFetchmatch (cfg : Config) (dir : Mdir) (pair : Pair) (fmask ftag : UInt32) (cb : TagMatch) : BaseM Fetched := do
  if pair.first ≥ cfg.blockCount ∨ pair.second ≥ cfg.blockCount then
    return ⟨lfsErrCorrupt, dir, none⟩
  let (err0, bytes0) ← bdRead 4 pair.first 0 (lfsTole32 0)
  let rev0 := lfsFromle32 bytes0
  if err0 ≠ 0 ∧ err0 ≠ lfsErrCorrupt then
    return ⟨err0, dir, none⟩
  let (err1, bytes1) ← bdRead 4 pair.second 0 (lfsTole32 0)
  let rev1 := lfsFromle32 bytes1
  if err1 ≠ 0 ∧ err1 ≠ lfsErrCorrupt then
    return ⟨err1, dir, none⟩
  -- r stays 0 unless the second block is the more recent one
  if err1 ≠ lfsErrCorrupt ∧ lfsScmp rev1 rev0 > 0 then
    fetchBlocks cfg fmask ftag cb rev0 2 0xffffffff { dir with pair := ⟨pair.second, pair.first⟩, rev := rev1, off := 0 }
  else
    fetchBlocks cfg fmask ftag cb rev1 2 0xffffffff { dir with pair := pair, rev := rev0, off := 0 }

-- The mask and the tag no tag matches, so the null match function is not called.
def lfsDirFetch (cfg : Config) (dir : Mdir) (pair : Pair) : BaseM (Int32 × Mdir) := do
  let fetched ← lfsDirFetchmatch cfg dir pair 0xffffffff 0xffffffff fun _ _ => endless
  return (fetched.tag, fetched.dir)

structure DirFindMatch where
  name : List UInt8
  size : UInt32

def lfsDirFindMatch (name : DirFindMatch) : TagMatch := fun tag disk => do
  let diff := lfsMin name.size (lfsTagSize tag)
  let res ← lfsBdCmp diff disk.block disk.off (name.name.take diff.toNat)
  if res ≠ lfsCmpEq then
    return res
  if name.size ≠ lfsTagSize tag then
    return if name.size < lfsTagSize tag then lfsCmpLt else lfsCmpGt
  return lfsCmpEq

-- gbuffer is returned with the status; gdiff wraps like the tags it offsets.
def getsliceLoop (cfg : Config) (dir : Mdir) (gmask gtag goff : UInt32) (gsize : Nat) :
    Nat → UInt32 → UInt32 → UInt32 → BaseM (Int32 × List UInt8)
  | 0, _, _, _ => pure (lfsErrNoent, zeros gsize)
  | fuel + 1, off, ntag, gdiff => do
      if off < 4 + lfsTagDsize ntag then
        return (lfsErrNoent, zeros gsize)
      let off := off - lfsTagDsize ntag
      let tag := ntag
      let (err, bytes) ← bdRead 4 dir.pair.first off (lfsTole32 ntag)
      if err ≠ 0 then
        return (err, zeros gsize)
      let ntag := (lfsFrombe32 bytes ^^^ tag) &&& 0x7fffffff
      let splices := lfsTagId gmask ≠ 0 ∧ lfsTagType1 tag = lfsTypeSplice ∧ lfsTagId tag ≤ lfsTagId (gtag - gdiff)
      if splices ∧ tag = lfsMktag lfsTypeCreate 0 0 ||| (lfsMktag 0 0x3ff 0 &&& (gtag - gdiff)) then
        return (lfsErrNoent, zeros gsize)
      let gdiff := if splices then gdiff + lfsMktag 0 (lfsTagSplice tag) 0 else gdiff
      if gmask &&& tag = gmask &&& (gtag - gdiff) then
        if lfsTagIsdelete tag then
          return (lfsErrNoent, zeros gsize)
        let diff := min (lfsTagSize tag).toNat gsize
        let (err, data) ← bdRead (UInt32.ofNat diff) dir.pair.first (off + 4 + goff) (zeros diff)
        if err ≠ 0 then
          return (err, zeros gsize)
        return ((tag + gdiff).toInt32, data ++ zeros (gsize - diff))
      getsliceLoop cfg dir gmask gtag goff gsize fuel off ntag gdiff

def lfsDirGetslice (cfg : Config) (dir : Mdir) (gmask gtag goff : UInt32) (gsize : Nat) : BaseM (Int32 × List UInt8) := do
  let lfs ← read
  let gdiff :=
    if lfsGstateHasmovehere lfs.gdisk dir.pair ∧ lfsTagId gmask ≠ 0 ∧ lfsTagId lfs.gdisk.tag ≤ lfsTagId gtag then
      0 - lfsMktag 0 1 0
    else 0
  getsliceLoop cfg dir gmask gtag goff gsize dir.off.toNat dir.off dir.etag gdiff

def lfsDirGet (cfg : Config) (dir : Mdir) (gmask gtag : UInt32) : BaseM (Int32 × List UInt8) :=
  lfsDirGetslice cfg dir gmask gtag 0 (lfsTagSize gtag).toNat

def lfsGstateFromle32 (bytes : List UInt8) : Gstate := ⟨lfsFromle32 bytes, lfsPairFromle32 (bytes.drop 4)⟩

def lfsDirGetgstate (cfg : Config) (dir : Mdir) (gstate : Gstate) : BaseM (Int32 × Gstate) := do
  let (res, temp) ← lfsDirGet cfg dir (lfsMktag 0x7ff 0 0) (lfsMktag lfsTypeMovestate 0 12)
  if res < 0 ∧ res ≠ lfsErrNoent then
    return (res, gstate)
  if res ≠ lfsErrNoent then
    return (0, lfsGstateXor gstate (lfsGstateFromle32 temp))
  return (0, gstate)

theorem tag_dsize_bounds (tag : UInt32) : 4 ≤ (lfsTagDsize tag).toNat ∧ (lfsTagDsize tag).toNat ≤ 1027 := by
  have size (word : UInt32) : (lfsTagSize word).toNat ≤ 1023 := by
    rw [lfsTagSize, UInt32.toNat_and]
    exact Nat.and_le_right
  have small := size (tag + if lfsTagIsdelete tag then 1 else 0)
  rw [lfsTagDsize, UInt32.toNat_add]
  simp only [UInt32.reduceToNat]
  omega

end SDCardFs.Littlefs

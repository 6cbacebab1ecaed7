import SDCardFs.Littlefs.Commit
import SDCardFs.Littlefs.Directories

set_option autoImplicit false

namespace SDCardFs.Littlefs

-- A tag and what its buffer has, as an attribute to commit or as an entry of
-- the log.
abbrev Item : Type := UInt32 × TagBuffer

abbrev ItemCallback (κ : Type) : Type := κ → UInt32 → TagBuffer → BdM (Int32 × κ)

-- What lfs_dir_traverse_filter returns, and the filtered tag after it.
def lfsDirTraverseFilter (filtertag tag : UInt32) : Int32 × UInt32 :=
  let mask := if tag &&& lfsMktag 0x100 0 0 ≠ 0 then lfsMktag 0x7ff 0x3ff 0 else lfsMktag 0x700 0x3ff 0
  if mask &&& tag = mask &&& filtertag ∨ lfsTagIsdelete filtertag ∨
      lfsMktag 0x7ff 0x3ff 0 &&& tag = lfsMktag lfsTypeDelete 0 0 ||| (lfsMktag 0 0x3ff 0 &&& filtertag) then
    (1, filtertag)
  else if lfsTagType1 tag = lfsTypeSplice ∧ lfsTagId tag ≤ lfsTagId filtertag then
    (0, filtertag + lfsMktag 0 (lfsTagSplice tag) 0)
  else
    (0, filtertag)

def filterCallback : ItemCallback UInt32 := fun filtertag tag _ => pure (lfsDirTraverseFilter filtertag tag)

def shiftTag (tag : UInt32) (diff : Int16) : UInt32 := tag + lfsMktag 0 diff.toInt32.toUInt32 0

-- Where the iteration over a directory and attributes is, behind an item.
structure TraverseTurn where
  item : Item
  off : UInt32
  ptag : UInt32
  attrs : List Item

section
variable (cfg : Config)

def traverseNext (dir : Mdir) (off ptag : UInt32) (attrs : List Item) : BdM (Except Int32 (Option TraverseTurn)) := do
  if off + lfsTagDsize ptag < dir.off then
    let off := off + lfsTagDsize ptag
    let (err, bytes) ← cacheRead cfg 4 dir.pair.first off (zeros 4)
    if err ≠ 0 then
      return .error err
    let tag := (lfsFrombe32 bytes ^^^ ptag) ||| 0x80000000
    return .ok (some ⟨(tag, .disk dir.pair.first (off + 4)), off, tag, attrs⟩)
  else
    match attrs with
    | [] => return .ok none
    | attr :: attrs => return .ok (some ⟨attr, off, ptag, attrs⟩)

-- A count beyond the attributes is memory that is not theirs.
def traverseUserattrs {κ : Type} (cb : ItemCallback κ) (tag : UInt32) (diff : Int16) : Nat → List UserAttr → κ → BdM (Int32 × κ)
  | 0, _, data => pure (0, data)
  | _ + 1, [], _ => unending
  | count + 1, attr :: attrs, data => do
      let (err, data) ← cb data (lfsMktag (lfsTypeUserattr + attr.type.toUInt32) (lfsTagId tag + diff.toInt32.toUInt32) attr.size) (.bytes attr.buffer)
      if err ≠ 0 then
        return (err, data)
      traverseUserattrs cb tag diff count attrs data

-- One item, handed to cb. move goes through another directory.
def traverseItem {κ : Type} (cb : ItemCallback κ) (move : Mdir → UInt16 → Int16 → κ → BdM (Int32 × κ)) (tag : UInt32) (buffer : TagBuffer)
    (diff : Int16) (data : κ) : BdM (Int32 × κ) :=
  if lfsTagType3 tag = lfsFromNoop then
    pure (0, data)
  else if lfsTagType3 tag = lfsFromMove then
    match buffer with
    | .mdir dir =>
        let fromid := (lfsTagSize tag).toUInt16
        move dir fromid ((lfsTagId tag).toUInt16 - fromid + diff.toUInt16).toInt16 data
    | _ => unending
  else if lfsTagType3 tag = lfsFromUserattrs then
    match buffer with
    | .attrs attrs => traverseUserattrs cb tag diff (lfsTagSize tag).toNat attrs data
    | _ => unending
  else
    cb data (shiftTag tag diff) buffer

def lfsDirTraverse : Nat → {κ : Type} → ItemCallback κ → Mdir → UInt32 → UInt32 → List Item → UInt32 → UInt32 → UInt16 → UInt16 → Int16 → κ →
    BdM (Int32 × κ)
  | 0, _, _, _, _, _, _, _, _, _, _, _, _ => unending
  | fuel + 1, _, cb, dir, off, ptag, attrs, tmask, ttag, begin, stop, diff, data => do
      match ← traverseNext cfg dir off ptag attrs with
      | .error err => return (err, data)
      | .ok none => return (0, data)
      | .ok (some ⟨(tag, buffer), off, ptag, attrs⟩) =>
          if lfsMktag 0x7ff 0 0 &&& tmask &&& tag ≠ lfsMktag 0x7ff 0 0 &&& tmask &&& ttag then
            lfsDirTraverse fuel cb dir off ptag attrs tmask ttag begin stop diff data
          else do
            let filtered : BdM (Int32 × UInt32) :=
              if lfsTagId tmask ≠ 0 then lfsDirTraverse fuel filterCallback dir off ptag attrs 0 0 0 0 0 tag else pure (0, tag)
            let (filter, tag) ← filtered
            if filter < 0 then
              return (filter, data)
            if filter ≠ 0 ∨ lfsTagId tmask ≠ 0 ∧ ¬ (lfsTagId tag ≥ begin.toUInt32 ∧ lfsTagId tag < stop.toUInt32) then
              lfsDirTraverse fuel cb dir off ptag attrs tmask ttag begin stop diff data
            else do
              let move := fun source fromid diff data => lfsDirTraverse fuel cb source 0 0xffffffff [] (lfsMktag 0x600 0x3ff 0)
                (lfsMktag lfsTypeStruct 0 0) fromid (fromid + 1) diff data
              let (err, data) ← traverseItem cb move tag buffer diff data
              if err ≠ 0 then
                return (err, data)
              lfsDirTraverse fuel cb dir off ptag attrs tmask ttag begin stop diff data

def lfsDirCommitCommit : ItemCallback Commit := fun commit tag buffer => lfsDirCommitattr cfg commit tag buffer

def lfsGstateIszero (a : Gstate) : Bool := a.tag = 0 ∧ a.pair.first = 0 ∧ a.pair.second = 0

def lfsGstateTole32 (a : Gstate) : List UInt8 := lfsTole32 a.tag ++ lfsTole32 a.pair.first ++ lfsTole32 a.pair.second

-- The global state that no directory has yet: delta of lfs_dir_commit.
def gstateDelta (lfs : LfsBase) : Gstate :=
  let delta := lfsGstateXor (lfsGstateXor (lfsGstateXor Gstate.zero lfs.gstate) lfs.gdisk) lfs.gdelta
  { delta with tag := delta.tag &&& ~~~ lfsMktag 0 0 0x3ff }

def commitGstate (lfs : LfsBase) (dir : Mdir) (commit : Commit) : BdM (Int32 × Commit) :=
  if lfsGstateIszero (gstateDelta lfs) then
    pure (0, commit)
  else do
    let (err, delta) ← cacheReads cfg lfs (lfsDirGetgstate cfg dir (gstateDelta lfs))
    if err ≠ 0 then
      return (err, commit)
    lfsDirCommitattr cfg commit (lfsMktag lfsTypeMovestate 0x3ff 12) (.bytes (lfsGstateTole32 delta))

-- The block of lfs_dir_commit that tries to commit behind the log of dir. An
-- error leaves dir as it was, or goes on to compaction.
def tryCommit (fuel : Nat) (lfs : LfsBase) (dir : Mdir) (attrs : List Item) : BdM (Int32 × Mdir × LfsBase) := do
  let commit : Commit := ⟨dir.pair.first, dir.off, dir.etag, 0xffffffff, dir.off, cfg.blockSize - 8⟩
  let (err, commit) ← lfsDirTraverse cfg fuel (lfsDirCommitCommit cfg) dir dir.off dir.etag attrs 0 0 0 0 0 commit
  if err ≠ 0 then
    return (err, dir, lfs)
  let (err, commit) ← commitGstate cfg lfs dir commit
  if err ≠ 0 then
    return (err, dir, lfs)
  let (err, commit) ← lfsDirCommitcrc cfg commit
  if err ≠ 0 then
    return (err, dir, lfs)
  return (0, { dir with off := commit.off, etag := commit.ptag }, { lfs with gdisk := lfs.gstate, gdelta := Gstate.zero })

end

end SDCardFs.Littlefs

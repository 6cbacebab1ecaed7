import SDCardFs.Littlefs.Traverse

set_option autoImplicit false

namespace SDCardFs.Littlefs

def lfsErrExist : Int32 := -17
def lfsErrNotdir : Int32 := -20
def lfsErrIsdir : Int32 := -21
def lfsErrNotempty : Int32 := -39
def lfsErrNoattr : Int32 := -61
def lfsErrNametoolong : Int32 := -36
def lfsErrNotopen : Int32 := -37
def lfsErrOpen : Int32 := -40
def lfsErrNotblock : Int32 := -39

def lfsTypeDir : UInt32 := 0x002
def lfsTypeUserattr : UInt32 := 0x300
def lfsTypeSofttail : UInt32 := 0x600

-- A C string, without the byte that ends it.
abbrev Path : Type := List UInt8

def slash : UInt8 := 0x2f
def dot : UInt8 := 0x2e

-- name + strspn(name, "/"), and strcspn(name, "/")
def skipSlashes (name : Path) : Path := name.dropWhile (· = slash)

def nameLength (name : Path) : Nat := (name.takeWhile (· ≠ slash)).length

-- What follows the '..' that takes the name before the suffix back, if there
-- is one. Every turn takes a name off the suffix.
def suffixMatched : Nat → Path → Nat → Option Path
  | 0, _, _ => none
  | turns + 1, suffix, depth =>
      let suffix := skipSlashes suffix
      let sufflen := nameLength suffix
      if sufflen = 0 then
        none
      else if suffix.take sufflen = [dot, dot] then
        if depth - 1 = 0 then some (suffix.drop sufflen) else suffixMatched turns (suffix.drop sufflen) (depth - 1)
      else
        suffixMatched turns (suffix.drop sufflen) (depth + 1)

-- goto nextname, until a name is neither skipped nor taken back.
def nextName : Nat → Path → Path
  | 0, name => name
  | turns + 1, name =>
      let name := skipSlashes name
      let namelen := nameLength name
      if name.take namelen = [dot] ∨ name.take namelen = [dot, dot] then
        nextName turns (name.drop namelen)
      else
        match suffixMatched (name.length + 1) (name.drop namelen) 1 with
        | some rest => nextName turns rest
        | none => name

-- The result of lfs_dir_find, and what it leaves in dir, *path and *id.
structure Found where
  tag : Int32
  dir : Mdir
  path : Path
  id : UInt16

-- The loop over the pairs of one directory. Nothing bounds it but the list of
-- tails.
def findEntry (cfg : Config) (name : Path) (namelen : Nat) : Nat → Found → BaseM Found
  | 0, _ => endless
  | turns + 1, found => do
      let size := UInt32.ofNat namelen
      let fetched ← lfsDirFetchmatch cfg found.dir found.dir.tail (lfsMktag 0x780 0 0) (lfsMktag lfsTypeName 0 size)
        (lfsDirFindMatch ⟨name, size⟩)
      let id := if slash ∈ name then found.id else (fetched.id.map UInt32.toUInt16).getD found.id
      let found := { found with tag := fetched.tag, dir := fetched.dir, id := id }
      if found.tag ≠ 0 then
        return found
      if ¬ found.dir.split then
        return { found with tag := lfsErrNoent }
      findEntry cfg name namelen turns found

-- Every turn takes a name off the path.
def findNames (cfg : Config) (fuel : Nat) : Nat → Path → Found → BaseM Found
  | 0, _, _ => endless
  | turns + 1, name, found => do
      let name := nextName (name.length + 1) name
      if name = [] then
        return found
      let found := { found with path := name }
      let tag := found.tag.toUInt32
      if lfsTagType3 tag ≠ lfsTypeDir then
        return { found with tag := lfsErrNotdir }
      let (res, pair) ←
        if lfsTagId tag ≠ 0x3ff then lfsDirGet cfg found.dir (lfsMktag 0x700 0x3ff 0) (lfsMktag lfsTypeStruct (lfsTagId tag) 8)
        else pure (0, lfsTole32 found.dir.tail.first ++ lfsTole32 found.dir.tail.second)
      if res < 0 then
        return { found with tag := res }
      let found ← findEntry cfg name (nameLength name) fuel { found with dir := { found.dir with tail := lfsPairFromle32 pair } }
      if found.tag < 0 then
        return found
      findNames cfg fuel turns (name.drop (nameLength name)) found

def lfsDirFind (cfg : Config) (fuel : Nat) (dir : Mdir) (path : Path) : BaseM Found := do
  let lfs ← read
  findNames cfg fuel (path.length + 1) path ⟨(lfsMktag lfsTypeDir 0x3ff 0).toInt32, { dir with tail := lfs.root }, path, 0x3ff⟩

structure Info where
  type : UInt32
  size : UInt32
  name : List UInt8

def lfsDirGetinfo (cfg : Config) (dir : Mdir) (id : UInt16) (info : Info) : BaseM (Int32 × Info) := do
  if id = 0x3ff then
    return (0, { info with type := lfsTypeDir, name := [slash, 0] })
  let lfs ← read
  let (tag, name) ← lfsDirGet cfg dir (lfsMktag 0x780 0x3ff 0) (lfsMktag lfsTypeName id.toUInt32 (lfs.nameMax + 1))
  if tag < 0 then
    return (tag, info)
  let info := { info with type := lfsTagType3 tag.toUInt32, name := name }
  let (tag, ctz) ← lfsDirGet cfg dir (lfsMktag 0x700 0x3ff 0) (lfsMktag lfsTypeStruct id.toUInt32 8)
  if tag < 0 then
    return (tag, info)
  if lfsTagType3 tag.toUInt32 = lfsTypeCtzstruct then
    return (0, { info with size := lfsFromle32 (ctz.drop 4) })
  if lfsTagType3 tag.toUInt32 = lfsTypeInlinestruct then
    return (0, { info with size := lfsTagSize tag.toUInt32 })
  return (0, info)

-- cycle grows up to blockCount / 2, so one turn more is enough.
def predLoop (cfg : Config) (pair : Pair) : Nat → Mdir → UInt32 → BaseM (Int32 × Mdir)
  | 0, _, _ => endless
  | turns + 1, pdir, cycle => do
      if lfsPairIsnull pdir.tail then
        return (lfsErrNoent, pdir)
      if cycle ≥ cfg.blockCount / 2 then
        return (lfsErrCorrupt, pdir)
      if lfsPairSame pdir.tail pair then
        return (0, pdir)
      let (err, pdir) ← lfsDirFetch cfg pdir pdir.tail
      if err ≠ 0 then
        return (err, pdir)
      predLoop cfg pair turns pdir (cycle + 1)

def lfsFsPred (cfg : Config) (pair : Pair) (pdir : Mdir) : BaseM (Int32 × Mdir) :=
  predLoop cfg pair ((cfg.blockCount / 2).toNat + 1) { pdir with tail := ⟨0, 1⟩ } 0

def lfsCtz (a : UInt32) : UInt32 := lfsNpw2 ((a &&& (0 - a)) + 1) - 1

-- What lfs_ctz_index leaves in *off.
def lfsCtzOff (cfg : Config) (off : UInt32) : UInt32 :=
  let i := lfsCtzIndex cfg off
  if off / (cfg.blockSize - 2 * 4) = 0 then off else off - (cfg.blockSize - 2 * 4) * i - 4 * lfsPopc i

-- current goes down every turn.
def ctzFindLoop (target : UInt32) : Nat → UInt32 → UInt32 → BaseM (Int32 × UInt32)
  | 0, _, _ => endless
  | turns + 1, current, head => do
      if current > target then
        let skip := lfsMin (lfsNpw2 (current - target + 1) - 1) (lfsCtz current)
        let (err, bytes) ← bdRead 4 head (4 * skip) (lfsTole32 head)
        if err ≠ 0 then
          return (err, lfsFromle32 bytes)
        ctzFindLoop target turns (current - (1 <<< skip)) (lfsFromle32 bytes)
      else
        return (0, head)

-- The status, and what *block and *off are set to where it is zero. No caller
-- passes a pcache.
def lfsCtzFind (cfg : Config) (head size pos : UInt32) : BaseM (Int32 × UInt32 × UInt32) := do
  if size = 0 then
    return (0, lfsBlockNull, 0)
  let current := lfsCtzIndex cfg (size - 1)
  let (err, block) ← ctzFindLoop (lfsCtzIndex cfg pos) (current.toNat + 1) current head
  return (err, block, lfsCtzOff cfg pos)

def lfsGstateHasmove (a : Gstate) : Bool := lfsTagType1 a.tag ≠ 0

def lfsGstateHasorphans (a : Gstate) : Bool := lfsTagSize a.tag ≠ 0

-- "/a/../b//c/" is the name b and then the name c.
example : nextName 12 [0x2f, 0x61, 0x2f, 0x2e, 0x2e, 0x2f, 0x62, 0x2f, 0x2f, 0x63, 0x2f] = [0x62, 0x2f, 0x2f, 0x63, 0x2f] := by
  decide

end SDCardFs.Littlefs

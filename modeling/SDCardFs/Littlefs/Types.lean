set_option autoImplicit false

namespace SDCardFs.Littlefs

def lfsBlockNull : UInt32 := 0xFFFFFFFF

def lfsDiskVersionMajor : UInt32 := 2
def lfsDiskVersionMinor : UInt32 := 0
def lfsNameMax : UInt32 := 255
def lfsFileMax : UInt32 := 2147483647
def lfsAttrMax : UInt32 := 1022

def lfsErrCorrupt : Int32 := -84
def lfsErrNoent : Int32 := -2
def lfsErrFbig : Int32 := -27
def lfsErrInval : Int32 := -22
def lfsErrNospc : Int32 := -28
def lfsErrNomem : Int32 := -12
def lfsErrNbig : Int32 := -27

def lfsTypeReg : UInt32 := 0x001
def lfsTypeSplice : UInt32 := 0x400
def lfsTypeName : UInt32 := 0x000
def lfsTypeStruct : UInt32 := 0x200
def lfsTypeTail : UInt32 := 0x600
def lfsTypeCrc : UInt32 := 0x500
def lfsTypeCreate : UInt32 := 0x401
def lfsTypeDelete : UInt32 := 0x4ff
def lfsTypeSuperblock : UInt32 := 0x0ff
def lfsTypeDirstruct : UInt32 := 0x200
def lfsTypeCtzstruct : UInt32 := 0x202
def lfsTypeInlinestruct : UInt32 := 0x201
def lfsTypeMovestate : UInt32 := 0x7ff

def lfsFDirty : UInt32 := 0x010000
def lfsFWriting : UInt32 := 0x020000
def lfsFInline : UInt32 := 0x100000

def lfsCmpEq : Int32 := 0
def lfsCmpLt : Int32 := 1
def lfsCmpGt : Int32 := 2

-- The block device's functions are the device the code runs on, and the three
-- buffers are always supplied, so neither is a member.
structure Config where
  readSize : UInt32
  progSize : UInt32
  blockSize : UInt32
  blockCount : UInt32
  blockCycles : Int32
  cacheSize : UInt32
  lookaheadSize : UInt32
  nameMax : UInt32
  fileMax : UInt32
  attrMax : UInt32
deriving DecidableEq, Repr

structure Pair where
  first : UInt32
  second : UInt32
deriving DecidableEq, Repr

structure Cache where
  block : UInt32
  off : UInt32
  size : UInt32
  buffer : Nat → UInt8

structure Mdir where
  pair : Pair
  rev : UInt32
  off : UInt32
  etag : UInt32
  count : UInt16
  erased : Bool
  split : Bool
  tail : Pair
deriving DecidableEq, Repr

structure Gstate where
  tag : UInt32
  pair : Pair
deriving DecidableEq, Repr

structure Free where
  off : UInt32
  size : UInt32
  i : UInt32
  ack : UInt32
  buffer : Nat → UInt32

structure LfsFile where
  type : UInt32
  flags : UInt32
  ctzHead : UInt32
  ctzSize : UInt32
  pos : UInt32
  block : UInt32
  cache : Cache

-- The members of lfs_t that fetching and traversing metadata read. The read
-- cache is behind the block device's requests, and cfg is an argument. mlist
-- holds the handles in list order.
structure LfsBase where
  pcache : Cache
  root : Pair
  mlist : List Nat
  gstate : Gstate
  gdisk : Gstate
  gdelta : Gstate
  nameMax : UInt32
  fileMax : UInt32
  attrMax : UInt32

structure Lfs extends LfsBase where
  seed : UInt32
  free : Free

def Mdir.ofTail (tail : Pair) : Mdir := ⟨⟨0, 0⟩, 0, 0, 0, 0, false, false, tail⟩

def Gstate.zero : Gstate := ⟨0, ⟨0, 0⟩⟩

def zeroCache : Cache := ⟨0, 0, 0, fun _ => 0⟩

def zeroLfs : Lfs := ⟨⟨zeroCache, ⟨0, 0⟩, [], Gstate.zero, Gstate.zero, Gstate.zero, 0, 0, 0⟩, 0, ⟨0, 0, 0, 0, fun _ => 0⟩⟩

def lfsMin (a b : UInt32) : UInt32 := if a < b then a else b

def lfsAligndown (a alignment : UInt32) : UInt32 := a - a % alignment

def lfsAlignup (a alignment : UInt32) : UInt32 := lfsAligndown (a + alignment - 1) alignment

def lfsNpw2 (a : UInt32) : UInt32 :=
  let a : UInt32 := a - 1
  let s : UInt32 := (if a > 0xffff then (1 : UInt32) else 0) <<< 4
  let a : UInt32 := a >>> s
  let r : UInt32 := s
  let s : UInt32 := (if a > 0xff then (1 : UInt32) else 0) <<< 3
  let a : UInt32 := a >>> s
  let r : UInt32 := r ||| s
  let s : UInt32 := (if a > 0xf then (1 : UInt32) else 0) <<< 2
  let a : UInt32 := a >>> s
  let r : UInt32 := r ||| s
  let s : UInt32 := (if a > 0x3 then (1 : UInt32) else 0) <<< 1
  let a : UInt32 := a >>> s
  let r : UInt32 := r ||| s
  (r ||| (a >>> 1)) + 1

def lfsPopc (a : UInt32) : UInt32 :=
  let a : UInt32 := a - ((a >>> (1 : UInt32)) &&& 0x55555555)
  let a : UInt32 := (a &&& 0x33333333) + ((a >>> (2 : UInt32)) &&& 0x33333333)
  (((a + (a >>> (4 : UInt32))) &&& 0x0f0f0f0f) * 0x01010101) >>> (24 : UInt32)

def lfsScmp (a b : UInt32) : Int32 := (a - b).toInt32

-- A word read from the device into memory, taken as little or big endian.
def lfsFromle32 (bytes : List UInt8) : UInt32 :=
  (bytes.getD 0 0).toUInt32 ||| ((bytes.getD 1 0).toUInt32 <<< 8) ||| ((bytes.getD 2 0).toUInt32 <<< 16) |||
    ((bytes.getD 3 0).toUInt32 <<< 24)

def lfsFrombe32 (bytes : List UInt8) : UInt32 :=
  ((bytes.getD 0 0).toUInt32 <<< 24) ||| ((bytes.getD 1 0).toUInt32 <<< 16) ||| ((bytes.getD 2 0).toUInt32 <<< 8) |||
    (bytes.getD 3 0).toUInt32

def lfsTole32 (word : UInt32) : List UInt8 :=
  [word.toUInt8, (word >>> 8).toUInt8, (word >>> 16).toUInt8, (word >>> 24).toUInt8]

def lfsPairFromle32 (bytes : List UInt8) : Pair := ⟨lfsFromle32 bytes, lfsFromle32 (bytes.drop 4)⟩

def lfsCrcTable : List UInt32 := [
  0x00000000, 0x1db71064, 0x3b6e20c8, 0x26d930ac,
  0x76dc4190, 0x6b6b51f4, 0x4db26158, 0x5005713c,
  0xedb88320, 0xf00f9344, 0xd6d6a3e8, 0xcb61b38c,
  0x9b64c2b0, 0x86d3d2d4, 0xa00ae278, 0xbdbdf21c]

def lfsCrc (crc : UInt32) (buffer : List UInt8) : UInt32 :=
  buffer.foldl (fun crc data =>
    let crc := (crc >>> 4) ^^^ lfsCrcTable.getD ((crc ^^^ (data.toUInt32 >>> 0)) &&& 0xf).toNat 0
    (crc >>> 4) ^^^ lfsCrcTable.getD ((crc ^^^ (data.toUInt32 >>> 4)) &&& 0xf).toNat 0) crc

def lfsPairIsnull (pair : Pair) : Bool := pair.first = lfsBlockNull ∨ pair.second = lfsBlockNull

-- lfs_pair_cmp(a, b) == 0
def lfsPairSame (a b : Pair) : Bool :=
  a.first = b.first ∨ a.second = b.second ∨ a.first = b.second ∨ a.second = b.first

def lfsMktag (type id size : UInt32) : UInt32 := (type <<< 20) ||| (id <<< 10) ||| size

def lfsTagIsvalid (tag : UInt32) : Bool := tag &&& 0x80000000 = 0

def lfsTagIsdelete (tag : UInt32) : Bool := (tag <<< 22).toInt32 >>> 22 = -1

def lfsTagType1 (tag : UInt32) : UInt32 := (tag &&& 0x70000000) >>> 20

def lfsTagType3 (tag : UInt32) : UInt32 := (tag &&& 0x7ff00000) >>> 20

def lfsTagChunk (tag : UInt32) : UInt32 := (tag &&& 0x0ff00000) >>> 20

-- The chunk as an int8_t, extended to a word.
def lfsTagSplice (tag : UInt32) : UInt32 := (lfsTagChunk tag).toUInt8.toInt8.toInt32.toUInt32

def lfsTagId (tag : UInt32) : UInt32 := (tag &&& 0x000ffc00) >>> 10

def lfsTagSize (tag : UInt32) : UInt32 := tag &&& 0x000003ff

def lfsTagDsize (tag : UInt32) : UInt32 := 4 + lfsTagSize (tag + if lfsTagIsdelete tag then 1 else 0)

def lfsGstateXor (a b : Gstate) : Gstate :=
  ⟨a.tag ^^^ b.tag, ⟨a.pair.first ^^^ b.pair.first, a.pair.second ^^^ b.pair.second⟩⟩

def lfsGstateHasmovehere (a : Gstate) (pair : Pair) : Bool := lfsTagType1 a.tag ≠ 0 ∧ lfsPairSame a.pair pair

example : lfsCrc 0xffffffff [0x31, 0x32, 0x33, 0x34, 0x35, 0x36, 0x37, 0x38, 0x39] = 0x340BC6D9 := by decide +kernel

end SDCardFs.Littlefs

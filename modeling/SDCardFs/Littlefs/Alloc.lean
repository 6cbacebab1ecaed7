import SDCardFs.Lib.Bitmap
import SDCardFs.Littlefs.Traverse

set_option autoImplicit false

namespace SDCardFs.Littlefs

def Free.bit (free : Free) (index : UInt32) : Bool := Lib.Bitmap.bit free.buffer index

def lookaheadOff (cfg : Config) (start block : UInt32) : UInt32 := ((block - start) + cfg.blockCount) % cfg.blockCount

def lfsAllocLookahead (cfg : Config) (free : Free) (block : UInt32) : Free :=
  let off := lookaheadOff cfg free.off block
  if off < free.size then { free with buffer := Lib.Bitmap.setBit free.buffer off } else free

def lfsAllocAck (cfg : Config) (free : Free) : Free := { free with ack := cfg.blockCount }

def lfsAllocReset (cfg : Config) (lfs : Lfs) : Lfs :=
  { lfs with free := lfsAllocAck cfg { lfs.free with off := lfs.seed % cfg.blockSize, size := 0, i := 0 } }

-- The five statements before each scan of lfs_alloc, and of lfs_traverse_async.
-- lfs_init accepts only a lookahead_size of whole words.
def freeAdvance (cfg : Config) (free : Free) : Free :=
  { free with
    off := (free.off + free.size) % cfg.blockCount
    size := lfsMin (8 * cfg.lookaheadSize) free.ack
    i := 0
    buffer := Lib.Bitmap.clear free.buffer (cfg.lookaheadSize / 4).toNat }

def lookaheadHandler (cfg : Config) : Lib.Prog.Handler Request Request.Response Free
  | .report block => some fun free => ((0 : Int32), lfsAllocLookahead cfg free block)
  | _ => none

def marking {α : Type} (cfg : Config) (traversal : BaseM α) : LfsM α := fun lfs =>
  (fun ran => (ran.1.1, { lfs with seed := ran.1.2, free := ran.2 })) <$>
    ((traversal lfs.toLfsBase).handle seedHandler lfs.seed).handle (lookaheadHandler cfg) lfs.free

-- while (i != size && the bit of i is set): size - i turns at most.
def allocSkip : Nat → Free → Free
  | 0, free => free
  | turns + 1, free => if free.bit free.i then allocSkip turns { free with i := free.i + 1, ack := free.ack - 1 } else free

def allocWindow (cfg : Config) : Nat → Free → Option UInt32 × Free
  | 0, free => (none, free)
  | turns + 1, free =>
      let off := free.i
      let free := { free with i := free.i + 1, ack := free.ack - 1 }
      if free.bit off then allocWindow cfg turns free
      else (some ((free.off + off) % cfg.blockCount), allocSkip turns free)

-- Each round of while (true) leaves less to ack, so more than 2^32 rounds are
-- rounds over an empty window, without end.
def allocRounds (cfg : Config) (files : Nat → LfsFile) : Nat → LfsM (Int32 × Option UInt32)
  | 0 => lift endless
  | rounds + 1 => do
      let lfs ← get
      let (found, free) := allocWindow cfg (lfs.free.size - lfs.free.i).toNat lfs.free
      set { lfs with free := free }
      if found.isSome then
        return (0, found)
      if free.ack = 0 then
        return (lfsErrNospc, none)
      modify fun lfs => { lfs with free := freeAdvance cfg lfs.free }
      let err ← marking cfg (lfsFsTraverseraw cfg files true)
      if err ≠ 0 then
        modify (lfsAllocReset cfg)
        return (err, none)
      allocRounds cfg files rounds

def lfsAlloc (cfg : Config) (files : Nat → LfsFile) : LfsM (Int32 × Option UInt32) := allocRounds cfg files (2 ^ 32 + 1)

def lfsTraverseAsync (cfg : Config) (files : Nat → LfsFile) (iter : AsyncIter) : LfsM (Int32 × AsyncIter) := do
  if iter.state = 1 then
    modify fun lfs => { lfs with free := freeAdvance cfg lfs.free }
  let (err, iter) ← marking cfg (lfsFsTraverserawAsync cfg files true iter)
  if err ≠ 0 then
    modify (lfsAllocReset cfg)
    return (err, iter)
  return (0, iter)

end SDCardFs.Littlefs

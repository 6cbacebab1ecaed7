import SDCardFs.Littlefs.FsSize
import SDCardFs.Wrapper.Opening

set_option autoImplicit false

namespace SDCardFs.Wrapper

open SDCardFs.Littlefs

def lfsNameMax : UInt32 := 255

structure Statvfs where
  fBsize : UInt32
  fFrsize : UInt32
  fBlocks : UInt64
  fBfree : UInt64
  fBavail : UInt64
  fFsid : UInt32
  fNamemax : UInt32

def Statvfs.zero : Statvfs := ⟨0, 0, 0, 0, 0, 0, 0⟩

-- The difference is one of 32 bits, which the 64-bit members are filled with.
def statvfs (cfg : Config) (files : Nat → LfsFile) : LfsM (Int32 × Statvfs) := do
  let inUse ← lfsFsSize cfg files
  if inUse < 0 then
    return (inUse, Statvfs.zero)
  return (0, { Statvfs.zero with
    fBsize := cfg.blockSize
    fFrsize := cfg.blockSize
    fBlocks := cfg.blockCount.toUInt64
    fBfree := (cfg.blockCount - inUse.toUInt32).toUInt64
    fBavail := (cfg.blockCount - inUse.toUInt32).toUInt64
    fNamemax := lfsNameMax })

theorem sub_le_iff (count used : UInt32) : (count - used).toUInt64 ≤ count.toUInt64 ↔ used ≤ count := by
  have countSmall := count.toNat_lt
  have usedSmall := used.toNat_lt
  rw [UInt64.le_iff_toNat_le, UInt32.toNat_toUInt64, UInt32.toNat_toUInt64, UInt32.toNat_sub, UInt32.le_iff_toNat_le]
  omega

theorem statvfs_fields (cfg : Config) (image : Image) (files : Nat → LfsFile) (lfs after : Lfs) (rcache last : Cache) (st : Statvfs)
    (coherent : Coherent cfg image rcache)
    (ran : exec cfg (imageDevice image) (statvfs cfg files) lfs rcache = some ((0, st), after, last)) :
    st.fBlocks = cfg.blockCount.toUInt64 ∧ st.fBfree = st.fBavail ∧
      st.fBavail = (cfg.blockCount - UInt32.ofNat (usedBlocks cfg image lfs.toLfsBase files)).toUInt64 := by
  rw [statvfs, exec_bind] at ran
  obtain ⟨⟨inUse, between, cache⟩, sized, rest⟩ := Option.bind_eq_some_iff.mp ran
  dsimp only at rest
  by_cases negative : inUse < 0
  · rw [if_pos negative] at rest
    cases rest
    exact absurd negative (by decide)
  · rw [if_neg negative] at rest
    cases rest
    obtain rfl := (fs_size_on_card files lfs _ rcache _ inUse coherent sized).resolve_left negative
    exact ⟨rfl, rfl, rfl⟩

theorem statvfs_free_iff (cfg : Config) (image : Image) (files : Nat → LfsFile) (lfs after : Lfs) (rcache last : Cache) (st : Statvfs)
    (coherent : Coherent cfg image rcache)
    (ran : exec cfg (imageDevice image) (statvfs cfg files) lfs rcache = some ((0, st), after, last)) :
    (st.fBfree = st.fBavail ∧ st.fBavail ≤ st.fBlocks) ↔
      usedBlocks cfg image lfs.toLfsBase files % 2 ^ 32 ≤ cfg.blockCount.toNat := by
  obtain ⟨blocks, equal, avail⟩ := statvfs_fields cfg image files lfs after rcache last st coherent ran
  have fits := sub_le_iff cfg.blockCount (UInt32.ofNat (usedBlocks cfg image lfs.toLfsBase files))
  rw [UInt32.le_iff_toNat_le, UInt32.toNat_ofNat'] at fits
  rw [equal, avail, blocks]
  constructor
  · exact fun kept => fits.mp kept.2
  · exact fun within => ⟨rfl, fits.mpr within⟩

-- A card of 16 blocks with a file a of 3545 bytes, its list in the blocks 2 to
-- 9.
def chainCommit : List UInt8 := superblockCommit.take 48 ++ [
  0x60, 0x00, 0x04, 0x18, 0x40, 0x00, 0x00, 0x01, 0x61, 0x20, 0x30, 0x00, 0x09, 0x09, 0x00, 0x00, 0x00, 0xd9, 0x0d, 0x00, 0x00,
  0x70, 0x2f, 0xf9, 0xbf, 0x6c, 0xe1, 0x71, 0xa5]

def chainHeads : List (List UInt32) := [[], [2], [3, 2], [4], [5, 4, 2], [6], [7, 6], [8]]

def chainImage : Image := fun block off =>
  if block = 0 then chainCommit.getD off.toNat 0xff
  else if 2 ≤ block ∧ block < 10 then ((chainHeads.getD (block - 2).toNat []).flatMap lfsTole32).getD off.toNat 0x78
  else 0xff

def chainMount : Option (Int32 × Lfs × Cache) :=
  exec (sectorConfig 16) (imageDevice chainImage) (lfsMount (sectorConfig 16)) zeroLfs zeroCache

-- The card, and the block lfs_alloc takes after this mount.
def appendBelow : Below Image where
  access := imageServer
  erase _ image := some (0, image)
  alloc := pure (0, 12)
  dirCommit _ dir _ := pure (lfsErrNospc, dir)
  deorphan := pure 0

-- What the traversal of an Fs reads: the files in list order, and their memory.
def heldLfs {σ : Type} (fs : Fs σ) (mlist : List Nat) : Lfs := ⟨{ fs.base with mlist := mlist }, 0, fs.free⟩

def heldFiles {σ : Type} (fs : Fs σ) (number : Nat) : LfsFile where
  type := (fs.nodes (.file (.handle number))).type
  flags := (fs.files (.handle number)).flags
  ctzHead := (fs.files (.handle number)).ctzHead
  ctzSize := (fs.files (.handle number)).ctzSize
  pos := (fs.files (.handle number)).pos
  block := (fs.files (.handle number)).block
  cache := (fs.files (.handle number)).cache

-- The first byte of a written over: its eight blocks, and the one of the list
-- being written.
theorem overwriting_counts_once : ∃ lfs rcache opened written st after last, chainMount = some (0, lfs, rcache) ∧
    (fileOpen (sectorConfig 16) appendBelow 9 0 [0x61] lfsOWronly).run (lfs.mounted rcache (some ⟨some fun _ => 0, []⟩) chainImage) =
      some (0, opened) ∧
    ((Call.fileWrite 0 [0x62]).perform (sectorConfig 16) appendBelow 9).run opened = some (1, written) ∧
    exec (sectorConfig 16) (imageDevice written.rest) (statvfs (sectorConfig 16) (heldFiles written)) (heldLfs written [0])
      written.rcache = some ((0, st), after, last) ∧
    usedBlocks (sectorConfig 16) written.rest (heldLfs written [0]).toLfsBase (heldFiles written) = 11 ∧
    st.fBfree = st.fBavail ∧ st.fBavail ≤ st.fBlocks := by
  have evaluated : (chainMount.bind fun mounted =>
      ((fileOpen (sectorConfig 16) appendBelow 9 0 [0x61] lfsOWronly).run
        (mounted.2.1.mounted mounted.2.2 (some ⟨some fun _ => 0, []⟩) chainImage)).bind fun opened =>
      (((Call.fileWrite 0 [0x62]).perform (sectorConfig 16) appendBelow 9).run opened.2).bind fun written =>
      (exec (sectorConfig 16) (imageDevice written.2.rest) (statvfs (sectorConfig 16) (heldFiles written.2)) (heldLfs written.2 [0])
        written.2.rcache).map fun ran =>
        ((mounted.1, opened.1, written.1), ran.1.1, decide (Coherent (sectorConfig 16) written.2.rest written.2.rcache),
          usedBlocks (sectorConfig 16) written.2.rest (heldLfs written.2 [0]).toLfsBase (heldFiles written.2))) =
      some ((0, 0, 1), 0, true, 11) := by
    decide +kernel
  obtain ⟨⟨mountErr, lfs, rcache⟩, mounted, rest⟩ := Option.bind_eq_some_iff.mp evaluated
  obtain ⟨⟨openErr, opened⟩, openRan, rest⟩ := Option.bind_eq_some_iff.mp rest
  obtain ⟨⟨wrote, written⟩, writeRan, rest⟩ := Option.bind_eq_some_iff.mp rest
  obtain ⟨⟨⟨result, st⟩, after, last⟩, ran, same⟩ := Option.map_eq_some_iff.mp rest
  simp only [Prod.mk.injEq, decide_eq_true_eq] at same
  obtain ⟨⟨rfl, rfl, rfl⟩, rfl, coherent, used⟩ := same
  have kept := (statvfs_free_iff (sectorConfig 16) written.rest (heldFiles written) (heldLfs written [0]) after written.rcache last st
    coherent ran).mpr (by rw [used]; decide)
  exact ⟨lfs, rcache, opened, written, st, after, last, mounted, openRan, writeRan, ran, used, kept.1, kept.2⟩

-- One byte appended to a: its eight blocks are counted where they are
-- committed, and the seven of them that the longer list shares once more.
theorem appending_wraps_free : ∃ lfs rcache opened written st after last, chainMount = some (0, lfs, rcache) ∧
    (fileOpen (sectorConfig 16) appendBelow 9 0 [0x61] (lfsOWronly ||| lfsOAppend)).run
      (lfs.mounted rcache (some ⟨some fun _ => 0, []⟩) chainImage) = some (0, opened) ∧
    ((Call.fileWrite 0 [0x62]).perform (sectorConfig 16) appendBelow 9).run opened = some (1, written) ∧
    written.links.Spells [.file (.handle 0)] ∧
    exec (sectorConfig 16) (imageDevice written.rest) (statvfs (sectorConfig 16) (heldFiles written)) (heldLfs written [0])
      written.rcache = some ((0, st), after, last) ∧
    ¬ (st.fBfree = st.fBavail ∧ st.fBavail ≤ st.fBlocks) := by
  have evaluated : (chainMount.bind fun mounted =>
      ((fileOpen (sectorConfig 16) appendBelow 9 0 [0x61] (lfsOWronly ||| lfsOAppend)).run
        (mounted.2.1.mounted mounted.2.2 (some ⟨some fun _ => 0, []⟩) chainImage)).bind fun opened =>
      (((Call.fileWrite 0 [0x62]).perform (sectorConfig 16) appendBelow 9).run opened.2).bind fun written =>
      (exec (sectorConfig 16) (imageDevice written.2.rest) (statvfs (sectorConfig 16) (heldFiles written.2)) (heldLfs written.2 [0])
        written.2.rcache).map fun ran =>
        ((mounted.1, opened.1, written.1), (written.2.links.head, written.2.links.next (.file (.handle 0))),
          ran.1.1, ran.1.2.fBavail, ran.1.2.fBlocks)) =
      some ((0, 0, 1), (some (.file (.handle 0)), none), 0, 4294967294, 16) := by
    decide +kernel
  obtain ⟨⟨mountErr, lfs, rcache⟩, mounted, rest⟩ := Option.bind_eq_some_iff.mp evaluated
  obtain ⟨⟨openErr, opened⟩, openRan, rest⟩ := Option.bind_eq_some_iff.mp rest
  obtain ⟨⟨wrote, written⟩, writeRan, rest⟩ := Option.bind_eq_some_iff.mp rest
  obtain ⟨⟨⟨result, st⟩, after, last⟩, ran, same⟩ := Option.map_eq_some_iff.mp rest
  simp only [Prod.mk.injEq] at same
  obtain ⟨⟨rfl, rfl, rfl⟩, ⟨head, next⟩, rfl, avail, blocks⟩ := same
  refine ⟨lfs, rcache, opened, written, st, after, last, mounted, openRan, writeRan, ⟨head, next⟩, ran, fun kept => ?_⟩
  have within := kept.2
  rw [avail, blocks] at within
  exact absurd within (by decide)

end SDCardFs.Wrapper

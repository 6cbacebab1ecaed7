import SDCardFs.Lib.Keeping
import SDCardFs.Lib.Links
import SDCardFs.Littlefs.Access
import SDCardFs.Littlefs.Alloc
import SDCardFs.Littlefs.Paths

set_option autoImplicit false

namespace SDCardFs.Littlefs

def lfsORdonly : UInt32 := 1
def lfsOWronly : UInt32 := 2
def lfsOCreat : UInt32 := 0x0100
def lfsOExcl : UInt32 := 0x0200
def lfsOTrunc : UInt32 := 0x0400
def lfsOAppend : UInt32 := 0x0800
def lfsFReading : UInt32 := 0x040000
def lfsFErred : UInt32 := 0x080000
def lfsFOpened : UInt32 := 0x200000

-- The file handles of the caller, and the local orig of lfs_file_flush.
inductive FileAt where
  | handle (number : Nat)
  | orig
deriving DecidableEq

-- What an lfs_mlist_t pointer points to: a handle, or the local node that
-- lfs_mkdir, lfs_remove and lfs_rename put into the list.
inductive MlistPtr where
  | file (file : FileAt)
  | dir (number : Nat)
  | hook
deriving DecidableEq

structure Attr where
  type : UInt8
  size : UInt32

-- buffer is none for a null pointer, and else what the buffer holds.
structure FileConfig where
  buffer : Option (Nat → UInt8)
  attrs : List Attr

-- The members every node of the list starts with, but for next.
structure Node where
  id : UInt16
  type : UInt32
  m : Mdir

structure File where
  ctzHead : UInt32
  ctzSize : UInt32
  flags : UInt32
  pos : UInt32
  block : UInt32
  off : UInt32
  cache : Cache
  cfg : Option FileConfig

structure Dir where
  pos : UInt32
  head : Pair

-- lfs_t, the handles and the local nodes; links is lfs->mlist with the next
-- members. rest is the card.
structure Fs (σ : Type) where
  rcache : Cache
  pcache : Cache
  root : Pair
  links : Lib.Links MlistPtr
  gstate : Gstate
  gdisk : Gstate
  gdelta : Gstate
  free : Free
  nameMax : UInt32
  fileMax : UInt32
  attrMax : UInt32
  nodes : MlistPtr → Node
  files : FileAt → File
  dirs : Nat → Dir
  rest : σ

def Fs.flags {σ : Type} (fs : Fs σ) (number : Nat) : UInt32 := (fs.files (.handle number)).flags

structure SameLinks {σ : Type} (before after : Fs σ) : Prop where
  links : after.links = before.links
  opened : ∀ number, after.flags number &&& lfsFOpened = before.flags number &&& lfsFOpened

instance {σ : Type} : Lib.Frame (SameLinks (σ := σ)) where
  refl _ := ⟨rfl, fun _ => rfl⟩
  trans _ _ _ first second := ⟨second.links.trans first.links, fun number => (second.opened number).trans (first.opened number)⟩

-- The calls that change neither the list nor which handles are open.
abbrev FsM (σ : Type) : Type → Type := Lib.Keeping (SameLinks (σ := σ))

-- An entry of LFS_MKATTRS: the tag and what its buffer points to.
inductive MattrBuffer where
  | null
  | bytes (data : List UInt8)
  | mdir (dir : Mdir)
  | attrs (attrs : List Attr)

structure Mattr where
  tag : UInt32
  buffer : MattrBuffer

-- cfg->read, cfg->prog and cfg->erase, the allocator, lfs_dir_commit on the
-- mdir of a node or on a local one, and the repair lfs_fs_deorphan makes once
-- it has found orphans. None of them changes lfs->mlist, a next member or an
-- LFS_F_OPENED; the commit brings the mdirs, ids and positions of the handles
-- up to date and takes inline files that no longer fit out of line.
structure Below (σ : Type) where
  access : Lib.Prog.Server Access Access.Response σ
  erase : UInt32 → σ → Option (Int32 × σ)
  alloc : FsM σ (Int32 × UInt32)
  dirCommit : Option MlistPtr → Mdir → List Mattr → FsM σ (Int32 × Mdir)
  deorphan : FsM σ Int32

section
variable {σ : Type}

def Fs.base (fs : Fs σ) : LfsBase := ⟨fs.pcache, fs.root, [], fs.gstate, fs.gdisk, fs.gdelta, fs.nameMax, fs.fileMax, fs.attrMax⟩

def Fs.setFile (fs : Fs σ) (file : FileAt) (change : File → File) : Fs σ :=
  { fs with files := fun other => if other = file then change (fs.files file) else fs.files other }

def Fs.setFlags (fs : Fs σ) (file : FileAt) (change : UInt32 → UInt32) : Fs σ :=
  fs.setFile file fun f => { f with flags := change f.flags }

def Fs.setNode (fs : Fs σ) (node : MlistPtr) (change : Node → Node) : Fs σ :=
  { fs with nodes := fun other => if other = node then change (fs.nodes node) else fs.nodes other }

def Fs.setDir (fs : Fs σ) (dir : Nat) (change : Dir → Dir) : Fs σ :=
  { fs with dirs := fun other => if other = dir then change (fs.dirs dir) else fs.dirs other }

theorem set_file_same (fs : Fs σ) (file : FileAt) (change : File → File)
    (opened : file = .orig ∨ (change (fs.files file)).flags &&& lfsFOpened = (fs.files file).flags &&& lfsFOpened) :
    SameLinks fs (fs.setFile file change) := by
  refine ⟨rfl, fun number => ?_⟩
  simp only [Fs.flags, Fs.setFile]
  by_cases same : FileAt.handle number = file
  · subst same
    rcases opened with impossible | opened
    · cases impossible
    · rw [if_pos rfl, opened]
  · rw [if_neg same]

-- The flags the file functions set and clear while a handle is open.
inductive FileFlag where
  | dirty
  | writing
  | reading
  | erred
  | inline

def FileFlag.mask : FileFlag → UInt32
  | dirty => lfsFDirty
  | writing => lfsFWriting
  | reading => lfsFReading
  | erred => lfsFErred
  | inline => lfsFInline

theorem or_and_word (left right mask : UInt32) : (left ||| right) &&& mask = left &&& mask ||| right &&& mask := by
  rw [← UInt32.toBitVec_inj]
  exact BitVec.and_or_distrib_right

theorem set_flag_opened (flags : UInt32) (flag : FileFlag) : (flags ||| flag.mask) &&& lfsFOpened = flags &&& lfsFOpened := by
  have apart : flag.mask &&& lfsFOpened = 0 := by
    cases flag with
    | _ => rfl
  rw [or_and_word, apart, UInt32.or_zero]

theorem clear_flag_opened (flags : UInt32) (flag : FileFlag) : (flags &&& ~~~flag.mask) &&& lfsFOpened = flags &&& lfsFOpened := by
  have apart : ~~~flag.mask &&& lfsFOpened = lfsFOpened := by
    cases flag with
    | _ => rfl
  rw [UInt32.and_assoc, apart]

def File.has (f : File) (flag : FileFlag) : Bool := f.flags &&& flag.mask ≠ 0

def spin {α : Type} : FsM σ α := Lib.Keeping.never

-- The members of a handle but its flags.
def setFile (file : FileAt) (change : File → File) : FsM σ Unit :=
  Lib.Keeping.update (fun fs => fs.setFile file fun f => { change f with flags := f.flags }) fun fs => set_file_same fs file _ (.inr rfl)

def setFlag (file : FileAt) (flag : FileFlag) : FsM σ Unit :=
  Lib.Keeping.update (fun fs => fs.setFlags file fun flags => flags ||| flag.mask) fun fs =>
    set_file_same fs file _ (.inr (set_flag_opened _ _))

def clearFlag (file : FileAt) (flag : FileFlag) : FsM σ Unit :=
  Lib.Keeping.update (fun fs => fs.setFlags file fun flags => flags &&& ~~~flag.mask) fun fs =>
    set_file_same fs file _ (.inr (clear_flag_opened _ _))

def setOrig (change : File → File) : FsM σ Unit :=
  Lib.Keeping.update (fun fs => fs.setFile .orig change) fun fs => set_file_same fs .orig change (.inl rfl)

def setNode (node : MlistPtr) (change : Node → Node) : FsM σ Unit :=
  Lib.Keeping.update (fun fs => fs.setNode node change) fun _ => ⟨rfl, fun _ => rfl⟩

def setDir (dir : Nat) (change : Dir → Dir) : FsM σ Unit :=
  Lib.Keeping.update (fun fs => fs.setDir dir change) fun _ => ⟨rfl, fun _ => rfl⟩

def setGstate (change : Gstate → Gstate) : FsM σ Unit :=
  Lib.Keeping.update (fun fs => { fs with gstate := change fs.gstate }) fun _ => ⟨rfl, fun _ => rfl⟩

def setGdelta (gdelta : Gstate) : FsM σ Unit :=
  Lib.Keeping.update (fun fs => { fs with gdelta := gdelta }) fun _ => ⟨rfl, fun _ => rfl⟩

def setRcache (rcache : Cache) : FsM σ Unit :=
  Lib.Keeping.update (fun fs => { fs with rcache := rcache }) fun _ => ⟨rfl, fun _ => rfl⟩

def setPcache (pcache : Cache) : FsM σ Unit :=
  Lib.Keeping.update (fun fs => { fs with pcache := pcache }) fun _ => ⟨rfl, fun _ => rfl⟩

def onRest {α : Type} (call : σ → Option (α × σ)) : FsM σ α :=
  Lib.Keeping.part call Fs.rest (fun fs rest => { fs with rest := rest }) fun _ _ => ⟨rfl, fun _ => rfl⟩

def fileAt (file : FileAt) : FsM σ File := do return (← read).files file

def nodeAt (node : MlistPtr) : FsM σ Node := do return (← read).nodes node

def dirAt (dir : Nat) : FsM σ Dir := do return (← read).dirs dir

def allocAck (cfg : Config) : FsM σ Unit :=
  Lib.Keeping.update (fun fs => { fs with free := lfsAllocAck cfg fs.free }) fun _ => ⟨rfl, fun _ => rfl⟩

variable (cfg : Config) (below : Below σ)

def cardCall {α : Type} (call : DevM α) : FsM σ α := onRest (call.run below.access)

-- What only reads, with a cache of its own for the rcache.
def lookupWith {α : Type} (rcache : Cache) (call : BaseM α) : FsM σ (α × Cache) := do
  let fs ← read
  cardCall below ((call fs.base).through (Calls.readServer cfg) rcache)

def lookup {α : Type} (call : BaseM α) : FsM σ α := do
  let ran ← lookupWith cfg below (← read).rcache call
  setRcache ran.2
  return ran.1

def bdErase (block : UInt32) : FsM σ Int32 :=
  if block ≥ cfg.blockCount then pure lfsErrNotblock else onRest (below.erase block)

-- lfs_bd_prog and lfs_bd_flush on lfs->pcache or on a file's cache, beside
-- lfs->rcache.
def progPcache (block off : UInt32) (data : List UInt8) : FsM σ Int32 := do
  let fs ← read
  let ended ← cardCall below (Calls.lfsBdProg cfg fs.pcache fs.rcache true block off data)
  setPcache ended.2.1
  setRcache ended.2.2
  return ended.1

def progFile (file : FileAt) (block off : UInt32) (data : List UInt8) : FsM σ Int32 := do
  let fs ← read
  let ended ← cardCall below (Calls.lfsBdProg cfg (fs.files file).cache fs.rcache true block off data)
  setFile file fun f => { f with cache := ended.2.1 }
  setRcache ended.2.2
  return ended.1

def flushFile (file : FileAt) : FsM σ Int32 := do
  let fs ← read
  let ended ← cardCall below (Calls.lfsBdFlush cfg (fs.files file).cache fs.rcache true)
  setFile file fun f => { f with cache := ended.2.1 }
  setRcache ended.2.2
  return ended.1

-- lfs_dir_commit(lfs, &node->m, attrs)
def commitNode (node : MlistPtr) (attrs : List Mattr) : FsM σ Int32 := do
  let ended ← below.dirCommit (some node) (← nodeAt node).m attrs
  setNode node fun n => { n with m := ended.2 }
  return ended.1

end

-- The calls that may change the list and which handles are open.
abbrev ListM (σ : Type) : Type → Type := StateT (Fs σ) Option

section
variable {σ : Type}

def keep {α : Type} (call : FsM σ α) : ListM σ α := call.val

-- node->next = lfs->mlist
def hookNext (node : MlistPtr) : ListM σ Unit := fun fs => some ((), { fs with links := fs.links.setNext node fs.links.head })

-- lfs->mlist = node
def setMlist (node : MlistPtr) : ListM σ Unit := fun fs => some ((), { fs with links := { fs.links with head := some node } })

-- node->next = lfs->mlist, lfs->mlist = node
def push (node : MlistPtr) : ListM σ Unit := fun fs =>
  some ((), { fs with links := { fs.links.setNext node fs.links.head with head := some node } })

-- lfs->mlist = node.next
def unhook (node : MlistPtr) : ListM σ Unit := fun fs => some ((), { fs with links := { fs.links with head := fs.links.next node } })

-- for (p = &lfs->mlist; *p; p = &(*p)->next) if (*p == node) { *p = (*p)->next; break; }
def unlist (fuel : Nat) (node : MlistPtr) : ListM σ Unit := fun fs =>
  (fs.links.unlink node fuel none).map fun links => ((), { fs with links := links })

-- file->flags = change(file->flags), LFS_F_OPENED among them
def setFlags (file : FileAt) (change : UInt32 → UInt32) : ListM σ Unit := fun fs => some ((), fs.setFlags file change)

end

end SDCardFs.Littlefs

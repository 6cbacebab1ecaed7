import SDCardFs.Driver.Card
import SDCardFs.Lib.Runs
import SDCardFs.Littlefs.Lookahead
import SDCardFs.Littlefs.Mount

set_option autoImplicit false

namespace SDCardFs.Wrapper

open SDCardFs.Littlefs

-- What the file system asks of an SDCard. media is everything outside the
-- object: the card and its driver, and whatever else the application keeps.
structure SdCard (Media : Type) where
  init : Media → Int32 × Media
  deinit : Media → Int32 × Media
  size : Media → UInt64
  device : Media → Device

-- context is the card _config refers to, which outlives _bd. _lfs.cfg points at
-- _config from the first lfs_init on, and is not used before.
structure LittleFS (Media : Type) where
  lfs : Lfs
  rcache : Cache
  workdir : Mdir
  workblock : UInt32
  mounted : Bool
  err : Int32
  curOperation : UInt8
  curOperationState : UInt8
  config : Config
  context : Option (SdCard Media)
  bd : Option (SdCard Media)
  readSize : UInt32
  progSize : UInt32
  blockSize : UInt32
  lookahead : UInt32

-- files is the memory of the handles the application opens.
structure World (Media : Type) where
  fs : LittleFS Media
  media : Media
  files : Nat → LfsFile

section
variable {Media : Type}

def zeroConfig : Config := ⟨0, 0, 0, 0, 0, 0, 0, 0, 0, 0⟩

-- workdir and workblock are not initialised.
def LittleFS.construct (workdir : Mdir) (workblock readSize progSize blockSize lookahead : UInt32) : LittleFS Media :=
  { lfs := zeroLfs
    rcache := zeroCache
    workdir := workdir
    workblock := workblock
    mounted := false
    err := 0
    curOperation := 1
    curOperationState := 0
    config := zeroConfig
    context := none
    bd := none
    readSize := readSize
    progSize := progSize
    blockSize := blockSize
    lookahead := lookahead }

def lfsCacheSize : UInt32 := 512
def lfsBlockcycles : Int32 := -1

def atLeast (size least : UInt32) : UInt32 := if size < least then least else size

-- memset and the assignments of mount, mount_async and format.
def LittleFS.cardConfig (fs : LittleFS Media) (lookahead : UInt32) (size : UInt64) : Config where
  readSize := atLeast Driver.blockSize fs.readSize
  progSize := atLeast Driver.blockSize fs.progSize
  blockSize := atLeast Driver.blockSize fs.blockSize
  blockCount := (size / (atLeast Driver.blockSize fs.blockSize).toUInt64).toUInt32
  blockCycles := lfsBlockcycles
  cacheSize := lfsCacheSize
  lookaheadSize := lookahead
  nameMax := 0
  fileMax := 0
  attrMax := 0

def LittleFS.configured (fs : LittleFS Media) (card : SdCard Media) (lookahead : UInt32) (size : UInt64) : LittleFS Media :=
  { fs with bd := some card, context := some card, config := fs.cardConfig lookahead size }

-- Reading without a card is a call through a null pointer.
def World.device (world : World Media) : Device :=
  match world.fs.context with
  | some card => card.device world.media
  | none => fun _ _ _ => none

def World.onLfs {α : Type} (world : World Media) (call : LfsM α) : Option (α × World Media) :=
  (exec world.fs.config world.device call world.fs.lfs world.fs.rcache).map fun ran =>
    (ran.1, { world with fs := { world.fs with lfs := ran.2.1, rcache := ran.2.2 } })

def World.notified (world : World Media) : Bool := world.fs.curOperation ≠ 0

def LittleFS.iter (fs : LittleFS Media) : AsyncIter := ⟨fs.curOperationState, fs.workdir, fs.workblock⟩

def LittleFS.setIter (fs : LittleFS Media) (iter : AsyncIter) : LittleFS Media :=
  { fs with curOperationState := iter.state, workdir := iter.dir, workblock := iter.cycle }

def LittleFS.failed (fs : LittleFS Media) (err : Int32) : LittleFS Media :=
  if err ≠ 0 then { fs with curOperationState := 0, curOperation := 0, mounted := false, err := err } else fs

def LittleFS.finished (fs : LittleFS Media) : LittleFS Media :=
  if fs.curOperationState = 3 then { fs with curOperationState := 0, curOperation := 6, mounted := true } else fs

-- The result of lfs_traverse_async is dropped, so err is 0 in case 6.
def World.taskRun (world : World Media) : Option (World Media) :=
  if world.fs.curOperation = 1 then
    (world.onLfs (lfsMountAsync world.fs.config true world.fs.iter)).map fun ran =>
      { ran.2 with fs := ((ran.2.fs.setIter ran.1.2).failed ran.1.1).finished }
  else if world.fs.curOperation = 6 then
    (world.onLfs (lfsTraverseAsync world.fs.config world.files world.fs.iter)).map fun ran =>
      { ran.2 with fs := ((ran.2.fs.setIter ran.1.2).failed 0).finished }
  else if 2 ≤ world.fs.curOperation ∧ world.fs.curOperation ≤ 5 then
    some world
  else
    some { world with fs := { world.fs with curOperation := 0 } }

def World.mountAsync (world : World Media) (card : SdCard Media) : Int32 × World Media :=
  let (err, media) := card.init world.media
  if err ≠ 0 then
    (err, { world with fs := { world.fs with bd := none }, media := media })
  else
    (0, { world with fs := { world.fs.configured card world.fs.lookahead (card.size media) with curOperation := 1 }, media := media })

def World.mount (world : World Media) (card : SdCard Media) : Option (Int32 × World Media) :=
  let (err, media) := card.init world.media
  if err ≠ 0 then
    some (err, { world with fs := { world.fs with bd := none }, media := media })
  else
    let world := { world with fs := world.fs.configured card world.fs.lookahead (card.size media), media := media }
    (world.onLfs (lfsMount world.fs.config)).map fun ran =>
      if ran.1 ≠ 0 then (ran.1, { ran.2 with fs := { ran.2.fs with bd := none } }) else (0, ran.2)

-- lfs_unmount releases nothing, as all buffers are members.
def World.unmount (world : World Media) : Int32 × World Media :=
  match world.fs.bd with
  | none => (0, world)
  | some card =>
      let (err, media) := card.deinit world.media
      (err, { world with fs := { world.fs with bd := none }, media := media })

abbrev FormatCall (Media : Type) : Type := Config → Lfs → Cache → Media → Option (Int32 × Lfs × Cache × Media)

-- The sizes passed to format are not used, its lookahead is.
def World.format (lfsFormat : FormatCall Media) (world : World Media) (card : SdCard Media) (lookahead : UInt32) : Option (Int32 × World Media) :=
  let (err, media) := card.init world.media
  if err ≠ 0 then
    some (err, { world with fs := { world.fs with bd := none }, media := media })
  else
    let fs := world.fs.configured card lookahead (card.size media)
    (lfsFormat fs.config fs.lfs fs.rcache media).map fun (err, lfs, rcache, media) =>
      let fs := { fs with lfs := lfs, rcache := rcache }
      if err ≠ 0 then
        (err, { world with fs := fs, media := media })
      else
        let (err, media) := card.deinit media
        (err, { world with fs := fs, media := media })

-- A file or directory member function: some call on _lfs, which reaches the
-- card and the open handles as well.
abbrev Operation (Media : Type) : Type :=
  Config → Lfs → Cache → Media → (Nat → LfsFile) → Option (Int32 × Lfs × Cache × Media × (Nat → LfsFile))

def World.operate (world : World Media) (call : Operation Media) : Option (Int32 × World Media) :=
  (call world.fs.config world.fs.lfs world.fs.rcache world.media world.files).map fun (result, lfs, rcache, media, files) =>
    (result, { fs := { world.fs with lfs := lfs, rcache := rcache }, media := media, files := files })

inductive Act (Media : Type) where
  | mountAsync (card : SdCard Media)
  | mount (card : SdCard Media)
  | unmount
  | format (card : SdCard Media) (lookahead : UInt32)
  | operation (call : Operation Media)
  | tick

-- The scheduler runs the task only when it has been notified.
def World.act (lfsFormat : FormatCall Media) (world : World Media) : Act Media → Option (Int32 × World Media)
  | .mountAsync card => some (world.mountAsync card)
  | .mount card => world.mount card
  | .unmount => some world.unmount
  | .format card lookahead => world.format lfsFormat card lookahead
  | .operation call => world.operate call
  | .tick => if world.notified then world.taskRun.map fun after => (0, after) else none

def Step (lfsFormat : FormatCall Media) (before : World Media) (input : Act Media × Int32) (after : World Media) : Prop :=
  before.act lfsFormat input.1 = some (input.2, after)

def Act.isTick : Act Media → Bool
  | .tick => true
  | _ => false

def Act.isMountAsync : Act Media → Bool
  | .mountAsync _ => true
  | _ => false

-- The members only the task and mount_async write.
structure SameTask (before after : LittleFS Media) : Prop where
  curOperation : after.curOperation = before.curOperation
  curOperationState : after.curOperationState = before.curOperationState

-- What a synchronous call leaves alone.
structure SameMembers (before after : LittleFS Media) : Prop extends SameTask before after where
  mounted : after.mounted = before.mounted
  err : after.err = before.err
  config : after.config = before.config ∨ after.config.readSize ≠ 0

theorem at_least_positive (size least : UInt32) (positive : 0 < least) : 0 < atLeast least size ∧ least ≤ atLeast least size := by
  rw [atLeast]
  split
  · rename_i less
    exact ⟨UInt32.lt_trans positive less, UInt32.le_of_lt less⟩
  · exact ⟨positive, UInt32.le_refl _⟩

theorem card_config_read_size (fs : LittleFS Media) (lookahead : UInt32) (size : UInt64) : (fs.cardConfig lookahead size).readSize ≠ 0 := by
  have positive := (at_least_positive fs.readSize Driver.blockSize (by decide)).1
  exact UInt32.pos_iff_ne_zero.mp positive

theorem on_lfs_members {α : Type} (before after : World Media) (call : LfsM α) (result : α)
    (ran : before.onLfs call = some (result, after)) : SameMembers before.fs after.fs := by
  obtain ⟨left, _, same⟩ := Option.map_eq_some_iff.mp ran
  cases same
  exact ⟨⟨rfl, rfl⟩, rfl, rfl, Or.inl rfl⟩

theorem mount_members (before after : World Media) (card : SdCard Media) (result : Int32)
    (ran : before.mount card = some (result, after)) : SameMembers before.fs after.fs := by
  rw [World.mount] at ran
  by_cases failed : (card.init before.media).1 = 0
  · simp only [failed, ne_eq, not_true_eq_false, ↓reduceIte] at ran
    obtain ⟨⟨err, left⟩, called, same⟩ := Option.map_eq_some_iff.mp ran
    obtain ⟨⟨operation, state⟩, mounted, kept, config⟩ := on_lfs_members _ _ _ _ called
    have sized : left.fs.config.readSize ≠ 0 := by
      rcases config with same | sized
      · rw [same]
        exact card_config_read_size before.fs _ _
      · exact sized
    by_cases refused : err = 0
    · simp only [refused, not_true_eq_false, ↓reduceIte] at same
      cases same
      exact ⟨⟨operation, state⟩, mounted, kept, Or.inr sized⟩
    · simp only [refused, not_false_eq_true, ↓reduceIte] at same
      cases same
      exact ⟨⟨operation, state⟩, mounted, kept, Or.inr sized⟩
  · simp only [failed, ne_eq, not_false_eq_true, ↓reduceIte] at ran
    cases ran
    exact ⟨⟨rfl, rfl⟩, rfl, rfl, Or.inl rfl⟩

theorem format_members (lfsFormat : FormatCall Media) (before after : World Media) (card : SdCard Media) (lookahead : UInt32) (result : Int32)
    (ran : before.format lfsFormat card lookahead = some (result, after)) : SameMembers before.fs after.fs := by
  rw [World.format] at ran
  by_cases failed : (card.init before.media).1 = 0
  · simp only [failed, ne_eq, not_true_eq_false, ↓reduceIte] at ran
    obtain ⟨⟨err, left⟩, called, same⟩ := Option.map_eq_some_iff.mp ran
    by_cases refused : err = 0
    · simp only [refused, not_true_eq_false, ↓reduceIte] at same
      cases same
      exact ⟨⟨rfl, rfl⟩, rfl, rfl, Or.inr (card_config_read_size before.fs _ _)⟩
    · simp only [refused, not_false_eq_true, ↓reduceIte] at same
      cases same
      exact ⟨⟨rfl, rfl⟩, rfl, rfl, Or.inr (card_config_read_size before.fs _ _)⟩
  · simp only [failed, ne_eq, not_false_eq_true, ↓reduceIte] at ran
    cases ran
    exact ⟨⟨rfl, rfl⟩, rfl, rfl, Or.inl rfl⟩

theorem unmount_members (world : World Media) : SameMembers world.fs world.unmount.2.fs := by
  rw [World.unmount]
  cases world.fs.bd with
  | none => exact ⟨⟨rfl, rfl⟩, rfl, rfl, Or.inl rfl⟩
  | some card => exact ⟨⟨rfl, rfl⟩, rfl, rfl, Or.inl rfl⟩

theorem operate_members (before after : World Media) (call : Operation Media) (result : Int32)
    (ran : before.operate call = some (result, after)) : SameMembers before.fs after.fs := by
  obtain ⟨left, _, same⟩ := Option.map_eq_some_iff.mp ran
  cases same
  exact ⟨⟨rfl, rfl⟩, rfl, rfl, Or.inl rfl⟩

theorem sync_members (lfsFormat : FormatCall Media) (before after : World Media) (input : Act Media × Int32)
    (stepped : Step lfsFormat before input after) (noAsync : input.1.isMountAsync = false) (noTick : input.1.isTick = false) :
    SameMembers before.fs after.fs := by
  obtain ⟨act, result⟩ := input
  cases act with
  | mountAsync card => cases noAsync
  | mount card => exact mount_members before after card result stepped
  | unmount =>
      have kept := unmount_members before
      rw [Option.some.inj stepped] at kept
      exact kept
  | format card lookahead => exact format_members lfsFormat before after card lookahead result stepped
  | operation call => exact operate_members before after call result stepped
  | tick => cases noTick

theorem sync_task (lfsFormat : FormatCall Media) (before after : World Media) (input : Act Media × Int32)
    (stepped : Step lfsFormat before input after) (noAsync : input.1.isMountAsync = false) (noTick : input.1.isTick = false) :
    SameTask before.fs after.fs :=
  (sync_members lfsFormat before after input stepped noAsync noTick).toSameTask

theorem tick_ran (lfsFormat : FormatCall Media) (before after : World Media) (act : Act Media) (result : Int32) (tick : act.isTick = true)
    (stepped : Step lfsFormat before (act, result) after) : before.notified = true ∧ before.taskRun = some after := by
  cases act with
  | tick =>
      by_cases notified : before.notified = true
      · simp only [Step, World.act, notified, ↓reduceIte] at stepped
        obtain ⟨ticked, ran, same⟩ := Option.map_eq_some_iff.mp stepped
        cases same
        exact ⟨notified, ran⟩
      · simp [Step, World.act, notified] at stepped
  | mountAsync card => cases tick
  | mount card => cases tick
  | unmount => cases tick
  | format card lookahead => cases tick
  | operation call => cases tick

def World.Constructed (world : World Media) : Prop :=
  ∃ workdir workblock readSize progSize blockSize lookahead,
    world.fs = LittleFS.construct workdir workblock readSize progSize blockSize lookahead

end

end SDCardFs.Wrapper

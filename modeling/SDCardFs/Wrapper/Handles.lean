import SDCardFs.Lib.Runs
import SDCardFs.Littlefs.Listed

set_option autoImplicit false

namespace SDCardFs.Wrapper

open SDCardFs.Littlefs

section
variable {σ : Type} (cfg : Config) (below : Below σ)

def fileOpen (fuel file : Nat) (path : Path) (flags : UInt32) : ListM σ Int32 := do
  if (← get).flags file &&& lfsFOpened ≠ 0 then
    return lfsErrOpen
  lfsFileOpen cfg below fuel (.handle file) path flags

def fileClose (fuel file : Nat) : ListM σ Int32 := do
  if (← get).flags file &&& lfsFOpened = 0 then
    return lfsErrNotopen
  lfsFileClose cfg below fuel (.handle file)

-- The calls of a mounted LittleFS on file handles, directory handles and paths.
inductive Call where
  | fileOpen (file : Nat) (path : Path) (flags : UInt32)
  | fileClose (file : Nat)
  | fileRead (file : Nat) (buffer : List UInt8)
  | fileWrite (file : Nat) (buffer : List UInt8)
  | fileSync (file : Nat)
  | fileSeek (file : Nat) (offset whence : Int32)
  | fileTell (file : Nat)
  | fileSize (file : Nat)
  | fileTruncate (file : Nat) (length : UInt32)
  | remove (filename : Path)
  | rename (oldname newname : Path)
  | mkdir (name : Path)
  | stat (name : Path) (info : Info)
  | dirOpen (dir : Nat) (path : Path)
  | dirClose (dir : Nat)
  | dirRead (dir : Nat)
  | dirSeek (dir : Nat) (offset : UInt32)
  | dirTell (dir : Nat)
  | dirRewind (dir : Nat)

-- What the call returns. The fuel bounds the turns of its loops.
def Call.perform (fuel : Nat) : Call → ListM σ Int32
  | .fileOpen file path flags => Wrapper.fileOpen cfg below fuel file path flags
  | .fileClose file => Wrapper.fileClose cfg below fuel file
  | .fileRead file buffer => keep (Prod.fst <$> lfsFileRead cfg below fuel (.handle file) buffer)
  | .fileWrite file buffer => keep (lfsFileWrite cfg below fuel (.handle file) buffer)
  | .fileSync file => keep (lfsFileSync cfg below fuel (.handle file))
  | .fileSeek file offset whence => keep (lfsFileSeek cfg below fuel (.handle file) offset whence)
  | .fileTell file => keep (lfsFileTell (.handle file))
  | .fileSize file => keep (lfsFileSize (.handle file))
  | .fileTruncate file length => keep (lfsFileTruncate cfg below fuel (.handle file) length)
  | .remove filename => lfsRemove cfg below fuel filename
  | .rename oldname newname => lfsRename cfg below fuel oldname newname
  | .mkdir name => lfsMkdir cfg below fuel name
  | .stat name info => keep (Prod.fst <$> lfsStat cfg below fuel name info)
  | .dirOpen dir path => lfsDirOpen cfg below fuel dir path
  | .dirClose dir => lfsDirClose fuel dir
  | .dirRead dir => keep (Prod.fst <$> lfsDirRead cfg below fuel dir)
  | .dirSeek dir offset => keep (lfsDirSeek cfg below fuel dir offset)
  | .dirTell dir => keep do return (← dirAt dir).pos.toInt32
  | .dirRewind dir => keep (lfsDirRewind cfg below dir)

-- The mounted file system, and which directory handles the caller has open.
structure Caller (σ : Type) where
  fs : Fs σ
  openDirs : Nat → Bool

-- An lfs_dir_t has no flag to refuse a second dir_open.
def Call.fits (openDirs : Nat → Bool) : Call → Bool
  | .dirOpen dir _ => !openDirs dir
  | _ => true

def Call.track (openDirs : Nat → Bool) (result : Int32) : Call → Nat → Bool
  | .dirOpen dir _ => fun other => openDirs other || (other = dir && result = 0)
  | .dirClose dir => fun other => openDirs other && other ≠ dir
  | _ => openDirs

def CallStep (before : Caller σ) (input : Call × Int32) (after : Caller σ) : Prop :=
  input.1.fits before.openDirs = true ∧ after.openDirs = input.1.track before.openDirs input.2 ∧
    ∃ fuel, (input.1.perform cfg below fuel).run before.fs = some (input.2, after.fs)

-- The list has the open handles and no other, each once.
def Caller.Kept (caller : Caller σ) : Prop := ∃ list, Listed list caller.fs ∧ ∀ dir, .dir dir ∈ list ↔ caller.openDirs dir = true

theorem open_open_refused (fuel file : Nat) (path : Path) (flags : UInt32) (fs : Fs σ) (opened : fs.flags file &&& lfsFOpened ≠ 0) :
    (fileOpen cfg below fuel file path flags).run fs = some (lfsErrOpen, fs) := by
  simp only [fileOpen, StateT.run_bind, StateT.run_get]
  simp [opened]

theorem close_closed_refused (fuel file : Nat) (fs : Fs σ) (closed : fs.flags file &&& lfsFOpened = 0) :
    (fileClose cfg below fuel file).run fs = some (lfsErrNotopen, fs) := by
  simp only [fileClose, StateT.run_bind, StateT.run_get]
  simp [closed]

section
variable (list : List MlistPtr)

theorem file_open_takes (fuel file : Nat) (path : Path) (flags : UInt32) :
    Lib.Takes (Listed list) (fileOpen cfg below fuel file path flags)
      fun err => Listed (if err = 0 then .file (.handle file) :: list else list) := by
  refine Lib.takes_bind _ Lib.takes_look fun fs => Lib.takes_ite (fun _ => Lib.takes_pure _ fun _ found => ?_) fun closed => ?_
  · rw [if_neg (by decide)]
    exact found.2
  · refine Lib.takes_mono (opencfg_takes cfg below list file fuel path flags defaults) (fun now found => ?_) fun _ _ listed => listed
    obtain ⟨rfl, listed⟩ := found
    exact ⟨listed, fun member => closed ((listed.listed file).mp member)⟩

theorem file_close_call_takes (fuel file : Nat) : Lib.Takes (Listed list) (fileClose cfg below fuel file)
    fun _ => Listed (list.erase (.file (.handle file))) := by
  refine Lib.takes_bind _ Lib.takes_look fun fs => Lib.takes_ite (fun closed => Lib.takes_pure _ fun now found => ?_) fun opened => ?_
  · obtain ⟨rfl, listed⟩ := found
    rw [List.erase_of_not_mem fun member => (listed.listed file).mp member closed]
    exact listed
  · refine Lib.takes_mono (file_close_takes cfg below list file fuel) (fun now found => ?_) fun _ _ listed => listed
    obtain ⟨rfl, listed⟩ := found
    exact ⟨listed_loose file list fs listed, opened⟩

def Call.relist (result : Int32) : Call → List MlistPtr
  | .fileOpen file _ _ => if result = 0 then .file (.handle file) :: list else list
  | .fileClose file => list.erase (.file (.handle file))
  | .dirOpen dir _ => if result = 0 then .dir dir :: list else list
  | .dirClose dir => list.erase (.dir dir)
  | _ => list

theorem perform_takes (fuel : Nat) (call : Call) (openDirs : Nat → Bool) (fits : call.fits openDirs = true)
    (dirs : ∀ dir, .dir dir ∈ list ↔ openDirs dir = true) :
    Lib.Takes (Listed list) (call.perform cfg below fuel) fun result => Listed (call.relist list result) := by
  cases call with
  | fileOpen file path flags => exact file_open_takes cfg below list fuel file path flags
  | fileClose file => exact file_close_call_takes cfg below list fuel file
  | remove filename => exact remove_takes cfg below list fuel filename
  | rename oldname newname => exact rename_takes cfg below list fuel oldname newname
  | mkdir name => exact mkdir_takes cfg below list fuel name
  | dirOpen dir path =>
      have fresh : .dir dir ∉ list := fun member => absurd ((dirs dir).mp member) (by simpa [Call.fits] using fits)
      exact Lib.takes_mono (dir_open_takes cfg below list fuel dir path) (fun _ listed => ⟨listed, fresh⟩) fun _ _ listed => listed
  | dirClose dir => exact dir_close_takes list fuel dir
  | _ => exact takes_keep_listed list _

theorem relist_dirs (call : Call) (result : Int32) (openDirs : Nat → Bool) (nodup : list.Nodup)
    (dirs : ∀ dir, .dir dir ∈ list ↔ openDirs dir = true) (dir : Nat) :
    .dir dir ∈ call.relist list result ↔ call.track openDirs result dir = true := by
  cases call with
  | fileOpen file path flags =>
      by_cases done : result = 0
      · simp [Call.relist, Call.track, done, dirs dir]
      · simp [Call.relist, Call.track, done, dirs dir]
  | fileClose file =>
      rw [Call.relist, List.mem_erase_of_ne (by simp)]
      exact dirs dir
  | dirOpen opened path =>
      by_cases done : result = 0
      · simp [Call.relist, Call.track, done, dirs dir, or_comm]
      · simp [Call.relist, Call.track, done, dirs dir]
  | dirClose closed =>
      rw [Call.relist, nodup.mem_erase_iff]
      simp [Call.track, dirs dir, and_comm]
  | _ => exact dirs dir

end

theorem call_kept (before : Caller σ) (input : Call × Int32) (after : Caller σ) (kept : before.Kept) (step : CallStep cfg below before input after) :
    after.Kept := by
  obtain ⟨list, listed, dirs⟩ := kept
  obtain ⟨fits, tracked, fuel, ran⟩ := step
  refine ⟨input.1.relist list input.2, ?_, ?_⟩
  · exact perform_takes cfg below list fuel input.1 before.openDirs fits dirs before.fs input.2 after.fs listed ran
  · rw [tracked]
    exact relist_dirs list input.1 input.2 before.openDirs listed.nodup dirs

-- The part of the state that is lfs_t, after the mount has left it so.
structure Fs.Mounted (fs : Fs σ) (lfs : Lfs) : Prop where
  base : fs.base = { lfs.toLfsBase with mlist := [] }
  free : fs.free = lfs.free
  links : fs.links.Spells (lfs.mlist.map fun number => .file (.handle number))

theorem mounted_caller_kept (device : Device) (start : Caller σ) (given lfs : Lfs) (rcache last : Cache)
    (mounted : exec cfg device (lfsMount cfg) given rcache = some (0, lfs, last)) (taken : Fs.Mounted start.fs lfs)
    (zeroed : ∀ number, start.fs.flags number = 0) (closed : ∀ dir, start.openDirs dir = false) : start.Kept := by
  have spelled := taken.links
  rw [mount_mlist cfg device given lfs rcache last mounted] at spelled
  refine ⟨[], ⟨⟨List.nodup_nil, fun _ member => absurd member List.not_mem_nil, fun number => ?_⟩, spelled⟩, fun dir => ?_⟩
  · simp [zeroed number]
  · simp [closed dir]

theorem runs_keep_handles_listed (device : Device) (start after : Caller σ) (given lfs : Lfs) (rcache last : Cache)
    (inputs : List (Call × Int32)) (mounted : exec cfg device (lfsMount cfg) given rcache = some (0, lfs, last))
    (taken : Fs.Mounted start.fs lfs) (zeroed : ∀ number, start.fs.flags number = 0) (closed : ∀ dir, start.openDirs dir = false)
    (ran : Lib.Run (CallStep cfg below) start inputs after) :
    (∃ list, after.fs.links.Spells list ∧ list.Nodup ∧ (∀ node ∈ list, node ≠ .hook ∧ node ≠ .file .orig) ∧
      ∀ number, after.fs.flags number &&& lfsFOpened ≠ 0 ↔ list.count (.file (.handle number)) = 1) ∧
    (∀ fuel number path flags, after.fs.flags number &&& lfsFOpened ≠ 0 →
      (Wrapper.fileOpen cfg below fuel number path flags).run after.fs = some (lfsErrOpen, after.fs)) ∧
    ∀ fuel number, after.fs.flags number &&& lfsFOpened = 0 →
      (Wrapper.fileClose cfg below fuel number).run after.fs = some (lfsErrNotopen, after.fs) := by
  have start := mounted_caller_kept cfg device start given lfs rcache last mounted taken zeroed closed
  obtain ⟨list, listed, _⟩ := Lib.run_invariant Caller.Kept (call_kept cfg below) ran start
  refine ⟨⟨list, listed.spelled, listed.nodup, listed.handles, fun number => ?_⟩, fun fuel number path flags opened => ?_, fun fuel number closed => ?_⟩
  · rw [← listed.listed number, listed.nodup.count]
    simp
  · exact open_open_refused cfg below fuel number path flags after.fs opened
  · exact close_closed_refused cfg below fuel number after.fs closed

-- The same steps, each one the guard lets pass, one after the other.
def GuardedStep (guard : Caller σ → Call → Bool) (before : Caller σ) (input : Call × Int32) (after : Caller σ) : Prop :=
  guard before input.1 = true ∧ CallStep cfg below before input after

def Caller.calls (guard : Caller σ → Call → Bool) (fuel : Nat) : List Call → Caller σ → Option (List (Call × Int32) × Caller σ)
  | [], caller => some ([], caller)
  | call :: rest, caller =>
      if guard caller call ∧ call.fits caller.openDirs then do
        let (result, fs) ← (call.perform cfg below fuel).run caller.fs
        let (inputs, after) ← Caller.calls guard fuel rest ⟨fs, call.track caller.openDirs result⟩
        return ((call, result) :: inputs, after)
      else
        none

theorem calls_run (guard : Caller σ → Call → Bool) (fuel : Nat) (calls : List Call) :
    ∀ (start after : Caller σ) (inputs : List (Call × Int32)), start.calls cfg below guard fuel calls = some (inputs, after) →
    Lib.Run (GuardedStep cfg below guard) start inputs after := by
  induction calls with
  | nil =>
      intro start after inputs ran
      cases ran
      exact .nil start
  | cons call rest ih =>
      intro start after inputs ran
      rw [Caller.calls] at ran
      by_cases passes : guard start call = true ∧ call.fits start.openDirs = true
      · rw [if_pos passes] at ran
        obtain ⟨⟨result, fs⟩, performed, ran⟩ := Option.bind_eq_some_iff.mp ran
        obtain ⟨⟨others, last⟩, further, same⟩ := Option.bind_eq_some_iff.mp ran
        cases same
        exact Lib.run_cons ⟨passes.1, passes.2, rfl, fuel, performed⟩ (ih _ _ _ further)
      · rw [if_neg passes] at ran
        cases ran

end

-- A handle that is opened twice and closed twice, an open of the root, which
-- is no file, and one of a handle without a buffer.
def handleCalls : List Call := [.fileOpen 0 [0x61] lfsORdonly, .fileOpen 0 [0x61] lfsORdonly, .dirOpen 0 [], .fileOpen 1 [] lfsORdonly,
  .fileClose 0, .fileClose 0]

def handleFs (lfs : Lfs) (rcache : Cache) : Caller Unit := ⟨lfs.mounted rcache (some ⟨some fun _ => 0, []⟩) (), fun _ => false⟩

theorem handle_calls_listed : ∃ start inputs after, Lib.Run (CallStep (sectorConfig 16) fileBelow) start inputs after ∧
    inputs.map Prod.snd = [0, lfsErrOpen, 0, lfsErrIsdir, 0, lfsErrNotopen] ∧ ∃ list, after.fs.links.Spells list ∧ list.Nodup := by
  have evaluated : (fileMount.bind fun mounted => ((handleFs mounted.2.1 mounted.2.2).calls (sectorConfig 16) fileBelow (fun _ _ => true) 9
      handleCalls).map
      fun ran => (mounted.1, ran.1.map Prod.snd)) = some (0, [0, lfsErrOpen, 0, lfsErrIsdir, 0, lfsErrNotopen]) := by
    decide +kernel
  obtain ⟨⟨err, lfs, rcache⟩, mounted, known⟩ := Option.bind_eq_some_iff.mp evaluated
  obtain ⟨⟨inputs, after⟩, called, same⟩ := Option.map_eq_some_iff.mp known
  obtain ⟨rfl, results⟩ := Prod.mk.inj same
  have ran := Lib.run_mono (fun _ _ _ step => step.2) (calls_run _ _ _ _ _ _ _ _ called)
  have empty := mount_mlist _ _ _ _ _ _ mounted
  have taken : Fs.Mounted (handleFs lfs rcache).fs lfs := ⟨rfl, rfl, by rw [empty]; rfl⟩
  obtain ⟨⟨list, spelled, nodup, -⟩, -⟩ := runs_keep_handles_listed (sectorConfig 16) fileBelow fileCard _ _ _ _ _ _ _ mounted taken
    (fun _ => rfl) (fun _ => rfl) ran
  exact ⟨_, inputs, after, ran, results, list, spelled, nodup⟩

end SDCardFs.Wrapper
